import ErrorGuide.Source.Window

/-! Which line of a source a line number names. -/

namespace ErrorGuide.Source
open Text

theorem lineAt?_eq_some_iff {lines : List (List Char)} {n : Nat} {text : String} :
    lineAt? lines n = some text ↔ 1 ≤ n ∧ n ≤ lines.length ∧
      ∃ line, lines[n - 1]? = some line ∧ text = trim (String.ofList line) := by
  cases n with
  | zero => simp [lineAt?]
  | succ n =>
    simp only [lineAt?, Option.map_eq_some_iff, trim, String.toList_ofList, Nat.add_sub_cancel]
    constructor
    · rintro ⟨line, hline, rfl⟩
      have hn : n < lines.length := (List.getElem?_eq_some_iff.1 hline).1
      exact ⟨Nat.succ_le_succ n.zero_le, hn, line, hline, rfl⟩
    · rintro ⟨-, -, line, hline, rfl⟩
      exact ⟨line, hline, rfl⟩

/-- A source has the line with a number from one up to the number of its lines, and no other. -/
theorem codeLine_eq_some_iff {code : String} {n : UInt32} {text : String} :
    codeLine code n = some text ↔ 1 ≤ n.toNat ∧ n.toNat ≤ (linesOf code).length ∧
      ∃ line, (linesOf code)[n.toNat - 1]? = some line ∧ text = trim (String.ofList line) :=
  lineAt?_eq_some_iff

end ErrorGuide.Source
