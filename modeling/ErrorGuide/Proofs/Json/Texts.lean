import ErrorGuide.Json.Decode
import ErrorGuide.Proofs.Json.Numbers
import ErrorGuide.Proofs.Json.Strings

/-! Values read back from their texts, compact or indented. -/

namespace ErrorGuide.Json
open Text

structure Layout where
  gap : Nat → List Char
  afterColon : List Char

namespace Layout

def dense : Layout := ⟨fun _ => [], []⟩

def lined : Layout := ⟨newline, [' ']⟩

structure Blank (l : Layout) : Prop where
  gap : ∀ level, ∀ c ∈ l.gap level, isSpace c = true
  afterColon : ∀ c ∈ l.afterColon, isSpace c = true

theorem blank_dense : dense.Blank := ⟨by simp [dense], by simp [dense]⟩

theorem blank_lined : lined.Blank := by
  refine ⟨fun level => List.forall_mem_cons.2 ⟨rfl, ?_⟩, by simp [lined, isSpace]⟩
  intro c hc
  rw [List.eq_of_mem_replicate hc]
  rfl

end Layout

mutual

def written (l : Layout) (level : Nat) : Json → List Char
  | .null => ['n', 'u', 'l', 'l']
  | .bool true => ['t', 'r', 'u', 'e']
  | .bool false => ['f', 'a', 'l', 's', 'e']
  | .num n => n.print
  | .str s => quote s.toList
  | .arr [] => ['[', ']']
  | .arr (item :: items) =>
    '[' :: l.gap (level + 1) ++ written l (level + 1) item ++ writtenItems l level items
  | .obj [] => ['\x7b', '\x7d']
  | .obj ((name, value) :: fields) =>
    '\x7b' :: l.gap (level + 1) ++ quote name.toList ++ ':' :: l.afterColon ++
      written l (level + 1) value ++ writtenFields l level fields

def writtenItems (l : Layout) (level : Nat) : List Json → List Char
  | [] => l.gap level ++ [']']
  | item :: items =>
    ',' :: l.gap (level + 1) ++ written l (level + 1) item ++ writtenItems l level items

def writtenFields (l : Layout) (level : Nat) : List (String × Json) → List Char
  | [] => l.gap level ++ ['\x7d']
  | (name, value) :: fields =>
    ',' :: l.gap (level + 1) ++ quote name.toList ++ ':' :: l.afterColon ++
      written l (level + 1) value ++ writtenFields l level fields

end

mutual

theorem written_dense (level : Nat) : ∀ j : Json, written .dense level j = compact j
  | .null => rfl
  | .bool true => rfl
  | .bool false => rfl
  | .num n => rfl
  | .str s => rfl
  | .arr [] => rfl
  | .arr (item :: items) => by
    rw [written, compact, written_dense (level + 1) item, writtenItems_dense level items]
    rfl
  | .obj [] => rfl
  | .obj ((name, value) :: fields) => by
    rw [written, compact, written_dense (level + 1) value, writtenFields_dense level fields]
    simp [Layout.dense]

theorem writtenItems_dense (level : Nat) :
    ∀ items : List Json, writtenItems .dense level items = compactItems items
  | [] => rfl
  | item :: items => by
    rw [writtenItems, compactItems, written_dense (level + 1) item, writtenItems_dense level items]
    rfl

theorem writtenFields_dense (level : Nat) :
    ∀ fields : List (String × Json), writtenFields .dense level fields = compactFields fields
  | [] => rfl
  | (name, value) :: fields => by
    rw [writtenFields, compactFields, written_dense (level + 1) value,
      writtenFields_dense level fields]
    simp [Layout.dense]

end

mutual

theorem written_lined (level : Nat) : ∀ j : Json, written .lined level j = indented level j
  | .null => rfl
  | .bool true => rfl
  | .bool false => rfl
  | .num n => rfl
  | .str s => rfl
  | .arr [] => rfl
  | .arr (item :: items) => by
    rw [written, indented, written_lined (level + 1) item, writtenItems_lined level items]
    rfl
  | .obj [] => rfl
  | .obj ((name, value) :: fields) => by
    rw [written, indented, written_lined (level + 1) value, writtenFields_lined level fields]
    rfl

theorem writtenItems_lined (level : Nat) :
    ∀ items : List Json, writtenItems .lined level items = indentedItems level items
  | [] => rfl
  | item :: items => by
    rw [writtenItems, indentedItems, written_lined (level + 1) item, writtenItems_lined level items]
    rfl

theorem writtenFields_lined (level : Nat) :
    ∀ fields : List (String × Json), writtenFields .lined level fields = indentedFields level fields
  | [] => rfl
  | (name, value) :: fields => by
    rw [writtenFields, indentedFields, written_lined (level + 1) value,
      writtenFields_lined level fields]
    rfl

end

mutual

def Legible : Json → Prop
  | .null => True
  | .bool _ => True
  | .num n => n.Legible
  | .str _ => True
  | .arr items => LegibleItems items
  | .obj fields => LegibleFields fields

def LegibleItems : List Json → Prop
  | [] => True
  | item :: items => Legible item ∧ LegibleItems items

def LegibleFields : List (String × Json) → Prop
  | [] => True
  | (_, value) :: fields => Legible value ∧ LegibleFields fields

end

/-! Steps of the reader. -/

section Steps
variable {fuel : Nat} {gap cs more : List Char}

theorem exists_steps {c : Char} (h : 3 * (c :: cs).length ≤ fuel) :
    ∃ steps, fuel = steps + 3 ∧ 3 * cs.length ≤ steps :=
  ⟨fuel - 3, by simp at h; omega, by simp at h; omega⟩

theorem skipSpace_gap (hgap : ∀ c ∈ gap, isSpace c = true) :
    skipSpace (gap ++ cs) = skipSpace cs := by
  rw [skipSpace, List.dropWhile_append_of_pos hgap, skipSpace]

theorem readValue_gap (hgap : ∀ c ∈ gap, isSpace c = true) :
    readValue fuel (gap ++ cs) = readValue fuel cs := by
  cases fuel with
  | zero => rw [readValue, readValue]
  | succ fuel => rw [readValue, readValue, skipSpace_gap hgap]

theorem readValue_bracket : readValue (fuel + 1) ('[' :: cs) =
    ⟨.arr (readItems fuel true cs).value, (readItems fuel true cs).rest⟩ :=
  rfl

theorem readValue_brace : readValue (fuel + 1) ('\x7b' :: cs) =
    ⟨.obj (readEntries fuel true cs).value, (readEntries fuel true cs).rest⟩ :=
  rfl

theorem readItems_close (first : Bool) (hgap : ∀ c ∈ gap, isSpace c = true) :
    readItems (fuel + 1) first (gap ++ ']' :: more) = ⟨.close, some more⟩ := by
  rw [readItems, skipSpace_gap hgap]
  rfl

theorem readEntries_close (first : Bool) (hgap : ∀ c ∈ gap, isSpace c = true) :
    readEntries (fuel + 1) first (gap ++ '\x7d' :: more) = ⟨.close, some more⟩ := by
  rw [readEntries, skipSpace_gap hgap]
  rfl

theorem skipSpace_cons {c : Char} (hc : isSpace c = false) : skipSpace (c :: cs) = c :: cs := by
  rw [skipSpace, List.dropWhile_cons_of_neg]
  simp [hc]

theorem readItems_first {c : Char} (hgap : ∀ c ∈ gap, isSpace c = true) (hc : isSpace c = false)
    (hclose : c ≠ ']') :
    readItems (fuel + 1) true (gap ++ c :: cs) = readItem fuel (c :: cs) := by
  rw [readItems, skipSpace_gap hgap, skipSpace_cons hc]
  simp only [hclose, if_false, if_true]

theorem readItems_next {c : Char} (hgap : ∀ c ∈ gap, isSpace c = true) (hc : isSpace c = false)
    (hclose : c ≠ ']') :
    readItems (fuel + 1) false (',' :: (gap ++ c :: cs)) = readItem fuel (gap ++ c :: cs) := by
  rw [readItems, skipSpace_cons rfl]
  simp only [skipSpace_gap hgap, skipSpace_cons hc, hclose, if_false]
  rfl

theorem readItem_eq {d : Doc} {items : Items} {rest : List Char}
    (hvalue : readValue fuel cs = ⟨d, some rest⟩)
    (hrest : readItems fuel false rest = ⟨items, some more⟩) :
    readItem (fuel + 1) cs = ⟨.item d items, some more⟩ := by
  simp only [readItem, hvalue, hrest]

theorem readEntries_first (hgap : ∀ c ∈ gap, isSpace c = true) :
    readEntries (fuel + 1) true (gap ++ '"' :: cs) = readEntry fuel cs := by
  rw [readEntries, skipSpace_gap hgap]
  rfl

theorem readEntries_next (hgap : ∀ c ∈ gap, isSpace c = true) :
    readEntries (fuel + 1) false (',' :: (gap ++ '"' :: cs)) = readEntry fuel cs := by
  rw [readEntries, skipSpace_cons rfl]
  simp only [skipSpace_gap hgap]
  rfl

theorem quote_append (s : List Char) :
    quote s ++ cs = '"' :: (s.flatMap escapeChar ++ '"' :: cs) := by
  simp [quote]

theorem readEntry_eq {d : Doc} {entries : Entries} {rest : List Char} (name : String)
    (hvalue : readValue fuel cs = ⟨d, some rest⟩)
    (hrest : readEntries fuel false rest = ⟨entries, some more⟩) :
    readEntry (fuel + 1) (name.toList.flatMap escapeChar ++ '"' :: ':' :: cs) =
      ⟨.entry (.ok name) d entries, some more⟩ := by
  have hcolon : skipSpace (':' :: cs) = ':' :: cs := skipSpace_cons rfl
  rw [readEntry, readString_quoted]
  simp only [Except.map, String.ofList_toList, hcolon, hvalue, hrest, if_true]

theorem endsNumeral_cons {c : Char} (hdigit : isAsciiDigit c = false) (hpoint : c ≠ '.')
    (he : c ≠ 'e') (hE : c ≠ 'E') : EndsNumeral (c :: cs) := by
  rintro _ ⟨⟩
  exact ⟨hdigit, hpoint, he, hE⟩

theorem endsNumeral_gap (hgap : ∀ c ∈ gap, isSpace c = true) (h : EndsNumeral cs) :
    EndsNumeral (gap ++ cs) := by
  cases gap with
  | nil => exact h
  | cons c gap =>
    have hc : c = ' ' ∨ c = '\n' ∨ c = '\t' ∨ c = '\r' := by
      simpa [isSpace, or_assoc] using (List.forall_mem_cons.1 hgap).1
    obtain rfl | rfl | rfl | rfl := hc
    all_goals exact endsNumeral_cons rfl (by decide) (by decide) (by decide)

def Starts (cs : List Char) : Prop := ∃ c rest, cs = c :: rest ∧ isSpace c = false ∧ c ≠ ']'

theorem Number.Legible.starts {n : Number} (h : n.Legible) : Starts n.print := by
  have hread := h 0 [] endsNumeral_nil
  rw [List.append_nil] at hread
  cases hprint : n.print with
  | nil =>
    rw [hprint] at hread
    cases hread
  | cons c cs =>
    refine ⟨c, cs, rfl, isSpace_of_mem_print n c (hprint ▸ List.mem_cons_self), ?_⟩
    rintro rfl
    rw [hprint] at hread
    cases hread

theorem starts_written (l : Layout) (level : Nat) {j : Json} (h : Legible j) :
    Starts (written l level j) := by
  cases j with
  | null => exact ⟨_, _, rfl, rfl, by decide⟩
  | bool b => cases b <;> exact ⟨_, _, rfl, rfl, by decide⟩
  | num n => exact Number.Legible.starts h
  | str s => exact ⟨_, _, rfl, rfl, by decide⟩
  | arr items => cases items <;> exact ⟨_, _, rfl, rfl, by decide⟩
  | obj fields => cases fields <;> exact ⟨_, _, rfl, rfl, by decide⟩

end Steps

section Reading
variable {l : Layout} (hl : l.Blank)
include hl

theorem endsNumeral_writtenItems (level : Nat) (items : List Json) (more : List Char) :
    EndsNumeral (writtenItems l level items ++ more) := by
  cases items with
  | nil =>
    rw [writtenItems, List.append_assoc]
    exact endsNumeral_gap (hl.gap level) (endsNumeral_cons rfl (by decide) (by decide) (by decide))
  | cons item items => exact endsNumeral_cons rfl (by decide) (by decide) (by decide)

theorem endsNumeral_writtenFields (level : Nat) (fields : List (String × Json)) (more : List Char) :
    EndsNumeral (writtenFields l level fields ++ more) := by
  cases fields with
  | nil =>
    rw [writtenFields, List.append_assoc]
    exact endsNumeral_gap (hl.gap level) (endsNumeral_cons rfl (by decide) (by decide) (by decide))
  | cons field fields => exact endsNumeral_cons rfl (by decide) (by decide) (by decide)

/-! Each value, and what follows it in a list or an object, is read with three steps for each of its
characters. -/

mutual

theorem readValue_written {fuel level : Nat} {more : List Char} :
    ∀ {j : Json}, Legible j → EndsNumeral more → 3 * (written l level j).length ≤ fuel →
      readValue fuel (written l level j ++ more) = ⟨toDoc j, some more⟩
  | .null, _, _, hfuel => by
    obtain ⟨steps, rfl, -⟩ := exists_steps hfuel
    rfl
  | .bool true, _, _, hfuel => by
    obtain ⟨steps, rfl, -⟩ := exists_steps hfuel
    rfl
  | .bool false, _, _, hfuel => by
    obtain ⟨steps, rfl, -⟩ := exists_steps hfuel
    rfl
  | .num n, h, hmore, hfuel => by
    obtain ⟨c, cs, hprint, -⟩ := starts_written l level (j := .num n) h
    rw [hprint] at hfuel
    obtain ⟨steps, rfl, -⟩ := exists_steps hfuel
    exact h (steps + 2) more hmore
  | .str s, _, _, hfuel => by
    obtain ⟨steps, rfl, -⟩ := exists_steps hfuel
    rw [written, quote, List.append_assoc]
    exact readStringValue_quoted more s
  | .arr [], _, _, hfuel => by
    obtain ⟨steps, rfl, -⟩ := exists_steps hfuel
    rfl
  | .arr (item :: items), ⟨hitem, hitems⟩, _, hfuel => by
    rw [written, List.cons_append, List.cons_append] at hfuel ⊢
    obtain ⟨steps, rfl, hsteps⟩ := exists_steps hfuel
    simp only [List.length_append] at hsteps
    have hread : readItem (steps + 1) (written l (level + 1) item ++
        (writtenItems l level items ++ more)) = ⟨itemsOf (item :: items), some more⟩ :=
      readItem_eq (readValue_written hitem (endsNumeral_writtenItems hl level items more)
        (by omega)) (readItems_written hitems (by omega))
    obtain ⟨c, cs, hcs, hc, hclose⟩ := starts_written l (level + 1) hitem
    rw [hcs, List.cons_append] at hread
    simp only [List.append_assoc, List.cons_append, hcs]
    rw [readValue_bracket, readItems_first (hl.gap (level + 1)) hc hclose, hread]
    rfl
  | .obj [], _, _, hfuel => by
    obtain ⟨steps, rfl, -⟩ := exists_steps hfuel
    rfl
  | .obj ((name, value) :: fields), ⟨hvalue, hfields⟩, _, hfuel => by
    rw [written] at hfuel ⊢
    simp only [List.append_assoc, List.cons_append] at hfuel ⊢
    obtain ⟨steps, rfl, hsteps⟩ := exists_steps hfuel
    simp only [List.length_append, List.length_cons] at hsteps
    have hread : readValue steps (l.afterColon ++ (written l (level + 1) value ++
        (writtenFields l level fields ++ more))) =
          ⟨toDoc value, some (writtenFields l level fields ++ more)⟩ := by
      rw [readValue_gap hl.afterColon]
      exact readValue_written hvalue (endsNumeral_writtenFields hl level fields more) (by omega)
    rw [readValue_brace, quote_append, readEntries_first (hl.gap (level + 1)),
      readEntry_eq name hread (readEntries_written hfields (by omega))]
    rfl

theorem readItems_written {fuel level : Nat} {more : List Char} :
    ∀ {items : List Json}, LegibleItems items → 3 * (writtenItems l level items).length ≤ fuel →
      readItems fuel false (writtenItems l level items ++ more) = ⟨itemsOf items, some more⟩
  | [], _, hfuel => by
    obtain ⟨steps, rfl⟩ : ∃ steps, fuel = steps + 1 :=
      ⟨fuel - 1, by simp [writtenItems] at hfuel; omega⟩
    rw [writtenItems, List.append_assoc]
    exact readItems_close false (hl.gap level)
  | item :: items, ⟨hitem, hitems⟩, hfuel => by
    rw [writtenItems, List.cons_append, List.cons_append] at hfuel ⊢
    obtain ⟨steps, rfl, hsteps⟩ := exists_steps hfuel
    simp only [List.length_append] at hsteps
    have hvalue : readValue (steps + 1) (l.gap (level + 1) ++ (written l (level + 1) item ++
        (writtenItems l level items ++ more))) =
          ⟨toDoc item, some (writtenItems l level items ++ more)⟩ := by
      rw [readValue_gap (hl.gap (level + 1))]
      exact readValue_written hitem (endsNumeral_writtenItems hl level items more) (by omega)
    have hread := readItem_eq hvalue (readItems_written hitems (by omega))
    obtain ⟨c, cs, hcs, hc, hclose⟩ := starts_written l (level + 1) hitem
    rw [hcs, List.cons_append] at hread
    simp only [List.append_assoc, List.cons_append, hcs]
    rw [readItems_next (hl.gap (level + 1)) hc hclose, hread]
    rfl

theorem readEntries_written {fuel level : Nat} {more : List Char} :
    ∀ {fields : List (String × Json)}, LegibleFields fields →
      3 * (writtenFields l level fields).length ≤ fuel →
      readEntries fuel false (writtenFields l level fields ++ more) = ⟨entriesOf fields, some more⟩
  | [], _, hfuel => by
    obtain ⟨steps, rfl⟩ : ∃ steps, fuel = steps + 1 :=
      ⟨fuel - 1, by simp [writtenFields] at hfuel; omega⟩
    rw [writtenFields, List.append_assoc]
    exact readEntries_close false (hl.gap level)
  | (name, value) :: fields, ⟨hvalue, hfields⟩, hfuel => by
    rw [writtenFields] at hfuel ⊢
    simp only [List.append_assoc, List.cons_append] at hfuel ⊢
    obtain ⟨steps, rfl, hsteps⟩ := exists_steps hfuel
    simp only [List.length_append, List.length_cons] at hsteps
    have hread : readValue (steps + 1) (l.afterColon ++ (written l (level + 1) value ++
        (writtenFields l level fields ++ more))) =
          ⟨toDoc value, some (writtenFields l level fields ++ more)⟩ := by
      rw [readValue_gap hl.afterColon]
      exact readValue_written hvalue (endsNumeral_writtenFields hl level fields more) (by omega)
    rw [quote_append, readEntries_next (hl.gap (level + 1)),
      readEntry_eq name hread (readEntries_written hfields (by omega))]
    rfl

end

/-- The text of a value reads as the value and nothing else. -/
theorem readText_written {j : Json} (h : Legible j) {blanks : List Char}
    (hblanks : ∀ c ∈ blanks, isSpace c = true) :
    readText (written l 0 j ++ blanks) = ⟨toDoc j, false⟩ := by
  have hends : EndsNumeral blanks := by
    simpa using endsNumeral_gap hblanks endsNumeral_nil
  have hread : readValue (3 * (written l 0 j ++ blanks).length + 3) (written l 0 j ++ blanks) =
      ⟨toDoc j, some blanks⟩ :=
    readValue_written hl h hends (by simp only [List.length_append]; omega)
  have hskip : skipSpace blanks = [] := by
    rw [← List.append_nil blanks, skipSpace_gap hblanks]
    rfl
  simp only [readText, hread, hskip]
  rfl

end Reading

/-! What is decoded from a text of a value is what is decoded from the value. -/

/-- The texts of a value, without blanks and with one item a line. -/
def texts (j : Json) : List String := [toCompact j, toPretty j]

section Texts
variable {j : Json} {s : String} {α : Type} (dec : Origin → Decoder α)

theorem readText_toCompact (h : Legible j) : readText (toCompact j).toList = ⟨toDoc j, false⟩ := by
  have hread := readText_written Layout.blank_dense h (List.forall_mem_nil _)
  rwa [toCompact, String.toList_ofList, ← written_dense 0, ← List.append_nil (written .dense 0 j)]

theorem readText_toPretty (h : Legible j) : readText (toPretty j).toList = ⟨toDoc j, false⟩ := by
  have hread := readText_written Layout.blank_lined h (List.forall_mem_nil _)
  rwa [toPretty, String.toList_ofList, ← written_lined, ← List.append_nil (written .lined 0 j)]

theorem readText_of_mem_texts (h : Legible j) (hs : s ∈ j.texts) :
    readText s.toList = ⟨toDoc j, false⟩ := by
  simp only [texts, List.mem_cons, List.not_mem_nil, or_false] at hs
  obtain rfl | rfl := hs
  · exact readText_toCompact h
  · exact readText_toPretty h

theorem readText_toPretty_newline (h : Legible j) :
    readText (toPretty j ++ "\n").toList = ⟨toDoc j, false⟩ := by
  rw [String.toList_append, toPretty, String.toList_ofList, ← written_lined]
  exact readText_written Layout.blank_lined h (by simp [isSpace])

theorem decodeText_of_readText (hs : readText s.toList = ⟨toDoc j, false⟩) :
    decodeText dec s = dec .text (toDoc j) := by
  rw [decodeText, hs]
  cases dec .text (toDoc j) <;> rfl

end Texts

end ErrorGuide.Json
