import ErrorGuide.Json.Reader
import ErrorGuide.Json.Printer
import ErrorGuide.Proofs.Text.Decimal
import ErrorGuide.Proofs.Text.Scan

/-! Numbers read back from their texts. A reader of numbers passes over a first part of the text and
looks at one character behind it, so what it finds in the text of a number alone it finds as well
before anything that does not go on with the number. -/

namespace ErrorGuide.Json
open Text
variable {negative minus : Bool} {whole cs more : List Char} {fraction : Option (List Char)}
  {v : Except Fault Number} {n : Nat}

def EndsNumeral (more : List Char) : Prop :=
  ∀ c ∈ more.head?, isAsciiDigit c = false ∧ c ≠ '.' ∧ c ≠ 'e' ∧ c ≠ 'E'

theorem EndsNumeral.takeWhile (h : EndsNumeral more) (cs : List Char) :
    (cs ++ more).takeWhile isAsciiDigit = cs.takeWhile isAsciiDigit := by
  obtain ⟨htake, -⟩ := takeWhile_of_head fun c hc => (h c hc).1
  rw [List.takeWhile_append, htake, List.append_nil]
  split
  · next hlen => exact ((List.takeWhile_prefix isAsciiDigit).eq_of_length hlen).symm
  · rfl

theorem EndsNumeral.dropWhile (h : EndsNumeral more) (cs : List Char) :
    (cs ++ more).dropWhile isAsciiDigit = cs.dropWhile isAsciiDigit ++ more := by
  obtain ⟨-, hdrop⟩ := takeWhile_of_head fun c hc => (h c hc).1
  rw [List.dropWhile_append, hdrop]
  split
  · next hnil => rw [List.isEmpty_iff.1 hnil, List.nil_append]
  · rfl

theorem forall_head_append {p : Char → Prop} (h : ∀ c ∈ cs.head?, p c)
    (hmore : ∀ c ∈ more.head?, p c) : ∀ c ∈ (cs ++ more).head?, p c := by
  cases cs with
  | nil => exact hmore
  | cons c cs => exact h

/-- A number that is found at the end of a text leaves a last part of it, and is found as well if
something follows that ends it. -/
def Settled (read : List Char → Read Doc) : Prop :=
  ∀ {cs v}, (read cs).value = .num v → ∃ rest, rest <:+ cs ∧
    ∀ {more}, EndsNumeral more → read (cs ++ more) = ⟨.num v, some (rest ++ more)⟩

theorem noDigit_ne_num (cs : List Char) : (noDigit cs).value ≠ .num v := by
  rw [noDigit]
  split <;> simp [Read.stop]

def readExponentDigits (negative : Bool) (whole : List Char) (fraction : Option (List Char))
    (minus : Bool) (cs : List Char) : Read Doc :=
  match cs.takeWhile isAsciiDigit with
  | [] => noDigit cs
  | digits =>
    ⟨.num (numberOf negative whole fraction (some ⟨minus, digits⟩)), cs.dropWhile isAsciiDigit⟩

theorem settled_readExponentDigits :
    Settled (readExponentDigits negative whole fraction minus) := by
  intro cs v h
  rw [readExponentDigits] at h
  cases htake : cs.takeWhile isAsciiDigit with
  | nil =>
    rw [htake] at h
    exact absurd h (noDigit_ne_num cs)
  | cons d digits =>
    rw [htake] at h
    refine ⟨_, List.dropWhile_suffix isAsciiDigit, fun hmore => ?_⟩
    rw [readExponentDigits, hmore.takeWhile, hmore.dropWhile, htake, ← h]

theorem readExponent_eq (hne : cs ≠ []) : ∃ minus ds, ds <:+ cs ∧ ∀ more,
    readExponent negative whole fraction (cs ++ more) =
      readExponentDigits negative whole fraction minus (ds ++ more) := by
  cases cs with
  | nil => exact absurd rfl hne
  | cons c cs =>
    by_cases hplus : c = '+'
    · subst hplus
      exact ⟨false, cs, List.suffix_cons _ cs, fun more => rfl⟩
    · by_cases hminus : c = '-'
      · subst hminus
        exact ⟨true, cs, List.suffix_cons _ cs, fun more => rfl⟩
      · refine ⟨false, c :: cs, List.suffix_rfl, fun more => ?_⟩
        rw [List.cons_append, readExponent]
        · rfl
        all_goals simp [hplus, hminus]

theorem settled_readExponent : Settled (readExponent negative whole fraction) := by
  intro cs v h
  have hne : cs ≠ [] := by
    rintro rfl
    exact absurd h (noDigit_ne_num [])
  obtain ⟨minus, ds, hsuffix, hread⟩ := readExponent_eq hne
  have hds := hread []
  rw [List.append_nil, List.append_nil] at hds
  rw [hds] at h
  obtain ⟨rest, hrest, hmore⟩ := settled_readExponentDigits h
  exact ⟨rest, hrest.trans hsuffix, fun hends => (hread _).trans (hmore hends)⟩

/-- What follows the digits of the fraction, or those of the whole part if there is no fraction. -/
def readMark (negative : Bool) (whole : List Char) (fraction : Option (List Char)) :
    List Char → Read Doc
  | 'e' :: cs => readExponent negative whole fraction cs
  | 'E' :: cs => readExponent negative whole fraction cs
  | cs => ⟨.num (numberOf negative whole fraction none), cs⟩

theorem readMark_of_head (h : ∀ c ∈ cs.head?, c ≠ 'e' ∧ c ≠ 'E') :
    readMark negative whole fraction cs =
      ⟨.num (numberOf negative whole fraction none), some cs⟩ := by
  rw [readMark]
  · rintro cs rfl
    exact (h 'e' rfl).1 rfl
  · rintro cs rfl
    exact (h 'E' rfl).2 rfl

theorem settled_readMark : Settled (readMark negative whole fraction) := by
  intro cs v h
  by_cases hhead : ∀ c ∈ cs.head?, c ≠ 'e' ∧ c ≠ 'E'
  · rw [readMark_of_head hhead] at h
    refine ⟨cs, List.suffix_rfl, fun hmore => ?_⟩
    rw [readMark_of_head (forall_head_append hhead fun c hc => (hmore c hc).2.2), ← h]
  · cases cs with
    | nil => exact absurd (by simp) hhead
    | cons c cs =>
      have hc : c = 'e' ∨ c = 'E' := Decidable.or_iff_not_imp_left.2 (by simpa using hhead)
      obtain rfl | rfl := hc
      all_goals
        obtain ⟨rest, hrest, hmore⟩ := settled_readExponent h
        exact ⟨rest, hrest.trans (List.suffix_cons _ cs), hmore⟩

theorem readAfterWhole_fraction (cs : List Char) :
    readAfterWhole negative whole ('.' :: cs) =
      match cs.takeWhile isAsciiDigit with
      | [] => noDigit cs
      | digits => readMark negative whole (some digits) (cs.dropWhile isAsciiDigit) :=
  rfl

theorem readAfterWhole_of_head (h : ∀ c ∈ cs.head?, c ≠ '.') :
    readAfterWhole negative whole cs = readMark negative whole none cs := by
  rw [readAfterWhole.eq_def, readMark.eq_def]
  cases cs with
  | nil => rfl
  | cons c cs =>
    have hc : c ≠ '.' := h c rfl
    split <;> simp_all

theorem settled_readAfterWhole : Settled (readAfterWhole negative whole) := by
  intro cs v h
  by_cases hhead : ∀ c ∈ cs.head?, c ≠ '.'
  · rw [readAfterWhole_of_head hhead] at h
    obtain ⟨rest, hrest, hmore⟩ := settled_readMark h
    refine ⟨rest, hrest, fun hends => ?_⟩
    rw [readAfterWhole_of_head (forall_head_append hhead fun c hc => (hends c hc).2.1)]
    exact hmore hends
  · cases cs with
    | nil => exact absurd (by simp) hhead
    | cons c cs =>
      obtain rfl : c = '.' := by simpa using hhead
      rw [readAfterWhole_fraction] at h
      cases htake : cs.takeWhile isAsciiDigit with
      | nil =>
        rw [htake] at h
        exact absurd h (noDigit_ne_num cs)
      | cons d digits =>
        rw [htake] at h
        obtain ⟨rest, hrest, hmore⟩ := settled_readMark h
        refine ⟨rest, hrest.trans ((List.dropWhile_suffix _).trans (List.suffix_cons _ cs)),
          fun hends => ?_⟩
        rw [List.cons_append, readAfterWhole_fraction, hends.takeWhile, hends.dropWhile, htake]
        exact hmore hends

theorem settled_readNumber : Settled (readNumber negative) := by
  intro cs v h
  rw [readNumber] at h
  split at h
  · exact absurd h (noDigit_ne_num cs)
  · cases h
  · next _ hnil hzero =>
    obtain ⟨rest, hrest, hmore⟩ := settled_readAfterWhole h
    refine ⟨rest, hrest.trans (List.dropWhile_suffix isAsciiDigit), fun hends => ?_⟩
    rw [readNumber, hends.takeWhile, hends.dropWhile]
    split
    · next htake => exact (hnil htake).elim
    · next htake => exact (hzero _ _ htake).elim
    · exact hmore hends

theorem value_readWord {d : Doc} (word cs : List Char) (h : (readWord word d cs).value = .num v) :
    d = .num v := by
  induction word generalizing cs with
  | nil => exact h
  | cons w word ih =>
    cases cs with
    | nil => cases h
    | cons c cs =>
      rw [readWord] at h
      split at h
      · exact ih cs h
      · cases h

theorem value_readStringValue (cs : List Char) : (readStringValue cs).value ≠ .num v := by
  rw [readStringValue]
  split <;> simp [Read.stop]

section Values
variable {fuel : Nat} {c : Char} {ds : List Char}

theorem readValue_minus (hcs : skipSpace cs = '-' :: ds) :
    readValue (fuel + 1) cs = readNumber true ds := by
  rw [readValue, hcs]
  rfl

theorem ne_of_isAsciiDigit {d : Char} (hc : isAsciiDigit c = true) (hd : isAsciiDigit d = false) :
    c ≠ d := by
  rintro rfl
  rw [hc] at hd
  cases hd

theorem readValue_digit (hcs : skipSpace cs = c :: ds) (hc : isAsciiDigit c = true) :
    readValue (fuel + 1) cs = readNumber false (c :: ds) := by
  have hn : c ≠ 'n' := ne_of_isAsciiDigit hc rfl
  have ht : c ≠ 't' := ne_of_isAsciiDigit hc rfl
  have hf : c ≠ 'f' := ne_of_isAsciiDigit hc rfl
  have hminus : c ≠ '-' := ne_of_isAsciiDigit hc rfl
  rw [readValue, hcs]
  simp only [hn, ht, hf, hminus, hc, if_true, if_false]

/-- Only the reader of numbers finds a number. -/
theorem readValue_ne_num (hcs : skipSpace cs = c :: ds) (hminus : c ≠ '-')
    (hdigit : isAsciiDigit c = false) : (readValue (fuel + 1) cs).value ≠ .num v := by
  intro h
  rw [readValue, hcs] at h
  simp only [hminus, hdigit, if_false, Bool.false_eq_true] at h
  split at h
  · cases value_readWord _ ds h
  split at h
  · cases value_readWord _ ds h
  split at h
  · cases value_readWord _ ds h
  split at h
  · exact absurd h (value_readStringValue ds)
  split at h
  · cases h
  split at h
  · cases h
  · cases h

theorem skipSpace_append (hcs : skipSpace cs = c :: ds) (more : List Char) :
    skipSpace (cs ++ more) = c :: (ds ++ more) := by
  rw [skipSpace] at hcs ⊢
  rw [List.dropWhile_append, hcs]
  rfl

theorem settled_readValue (h : (readValue (fuel + 1) cs).value = .num v) :
    ∃ rest, rest <:+ cs ∧ ∀ fuel {more}, EndsNumeral more →
      readValue (fuel + 1) (cs ++ more) = ⟨.num v, some (rest ++ more)⟩ := by
  cases hcs : skipSpace cs with
  | nil =>
    rw [readValue, hcs] at h
    cases h
  | cons c ds =>
    have hsuffix : c :: ds <:+ cs := hcs ▸ List.dropWhile_suffix isSpace
    by_cases hminus : c = '-'
    · subst hminus
      rw [readValue_minus hcs] at h
      obtain ⟨rest, hrest, hmore⟩ := settled_readNumber h
      refine ⟨rest, hrest.trans ((List.suffix_cons _ ds).trans hsuffix), fun fuel more hends => ?_⟩
      rw [readValue_minus (skipSpace_append hcs more), hmore hends]
    · by_cases hdigit : isAsciiDigit c = true
      · rw [readValue_digit hcs hdigit] at h
        obtain ⟨rest, hrest, hmore⟩ := settled_readNumber h
        refine ⟨rest, hrest.trans hsuffix, fun fuel more hends => ?_⟩
        rw [readValue_digit (skipSpace_append hcs more) hdigit]
        exact hmore hends
      · exact absurd h (readValue_ne_num hcs hminus (Bool.eq_false_iff.2 hdigit))

end Values

/-! The texts of numbers. -/

/-- The number is read from its own text, whatever follows that does not go on with it. -/
def Number.Legible (n : Number) : Prop :=
  ∀ fuel more, EndsNumeral more →
    readValue (fuel + 1) (n.print ++ more) = ⟨.num (.ok n), some more⟩

theorem tally_decimal_append (h : n < UInt64.size) (used : Nat) (cs : List Char) :
    tally 0 used (decimal n ++ cs) = tally n (used + (decimal n).length) cs := by
  fun_induction decimal n generalizing used cs with
  | case1 n hn => simp [tally, digitValue?_digitChar hn, h]
  | case2 n hn ih =>
    have hlast := digitValue?_digitChar (Nat.mod_lt n (by decide : 0 < 10))
    have hn : 10 * (n / 10) + n % 10 = n := Nat.div_add_mod n 10
    rw [List.append_assoc, ih (by omega), List.singleton_append, tally, hlast, Option.getD_some]
    simp only [hn, h, if_true, List.length_append, List.length_singleton, Nat.add_assoc]

theorem decimal_head (n : Nat) :
    ∃ c ds, decimal n = c :: ds ∧ isAsciiDigit c = true ∧ (c = '0' → ds = []) := by
  fun_induction decimal n with
  | case1 n h => exact ⟨_, [], rfl, isAsciiDigit_digitChar h, fun _ => rfl⟩
  | case2 n h ih =>
    obtain ⟨c, ds, hdecimal, hc, hzero⟩ := ih
    refine ⟨c, _, by rw [hdecimal, List.cons_append], hc, ?_⟩
    rintro rfl
    rw [hzero rfl] at hdecimal
    have hten : n / 10 = 0 := decimal_injective (hdecimal.trans (by rw [decimal]; rfl))
    omega

theorem takeWhile_decimal (n : Nat) (hmore : EndsNumeral more) :
    (decimal n ++ more).takeWhile isAsciiDigit = decimal n ∧
      (decimal n ++ more).dropWhile isAsciiDigit = more :=
  takeWhile_append_of_head isAsciiDigit_of_mem_decimal fun c hc => (hmore c hc).1

theorem numberOf_decimal (h : n < UInt64.size) :
    numberOf false (decimal n) none none = .ok (.whole n) := by
  have htally := tally_decimal_append h 0 []
  rw [List.append_nil] at htally
  simp [numberOf, htally, tally]

theorem isSpace_of_isAsciiDigit {c : Char} (h : isAsciiDigit c = true) : isSpace c = false := by
  have hne (d : Char) (hd : isAsciiDigit d = false) : c ≠ d := ne_of_isAsciiDigit h hd
  simp [isSpace, hne ' ' rfl, hne '\n' rfl, hne '\t' rfl, hne '\r' rfl]

theorem legible_whole (h : n < UInt64.size) : (Number.whole n).Legible := by
  intro fuel more hmore
  obtain ⟨c, ds, hdecimal, hc, hzero⟩ := decimal_head n
  obtain ⟨htake, hdrop⟩ := takeWhile_decimal n hmore
  have hskip : skipSpace (decimal n ++ more) = c :: (ds ++ more) := by
    rw [hdecimal, List.cons_append, skipSpace, List.dropWhile_cons_of_neg]
    simp [isSpace_of_isAsciiDigit hc]
  have hmark : readAfterWhole false (decimal n) more = ⟨.num (.ok (.whole n)), some more⟩ := by
    rw [readAfterWhole_of_head fun c hc => (hmore c hc).2.1,
      readMark_of_head fun c hc => (hmore c hc).2.2, numberOf_decimal h]
  rw [Number.print, readValue_digit hskip hc, ← List.cons_append, ← hdecimal, readNumber, htake,
    hdrop]
  split
  · next hnil => simp [hdecimal] at hnil
  · next hlong =>
    obtain ⟨rfl, rfl⟩ := List.cons.inj (hdecimal.symm.trans hlong)
    exact absurd (hzero rfl) (by simp)
  · exact hmark

theorem isSpace_of_mem_decimal : ∀ c ∈ decimal n, isSpace c = false :=
  fun c hc => isSpace_of_isAsciiDigit (isAsciiDigit_of_mem_decimal c hc)

theorem isSpace_of_mem_placePoint {digits : List Char} (h : ∀ c ∈ digits, isSpace c = false)
    (whole : Int) : ∀ c ∈ placePoint digits whole, isSpace c = false := by
  have hzeros (k : Nat) : ∀ c ∈ List.replicate k '0', isSpace c = false := by
    intro c hc
    rw [List.eq_of_mem_replicate hc]
    rfl
  have hpoint : ∀ c ∈ ['0', '.'], isSpace c = false := by simp [isSpace]
  rw [placePoint]
  split
  · exact List.forall_mem_append.2 ⟨List.forall_mem_append.2 ⟨hpoint, hzeros _⟩, h⟩
  split
  · exact List.forall_mem_append.2 ⟨List.forall_mem_append.2 ⟨h, hzeros _⟩, by simp [isSpace]⟩
  · refine List.forall_mem_append.2 ⟨List.forall_mem_append.2 ⟨?_, by simp [isSpace]⟩, ?_⟩
    · exact fun c hc => h c (List.mem_of_mem_take hc)
    · exact fun c hc => h c (List.mem_of_mem_drop hc)

theorem isSpace_of_mem_withExponent {digits : List Char} (h : ∀ c ∈ digits, isSpace c = false)
    (e : Int) : ∀ c ∈ withExponent digits e, isSpace c = false := by
  have hmark : ∀ c ∈ ['e', if e < 0 then '-' else '+'], isSpace c = false := by
    split <;> simp [isSpace]
  rw [withExponent]
  refine List.forall_mem_append.2 ⟨?_, isSpace_of_mem_decimal⟩
  refine List.forall_mem_append.2 ⟨List.forall_mem_append.2 ⟨?_, ?_⟩, hmark⟩
  · exact fun c hc => h c (List.mem_of_mem_take hc)
  · split
    · simp
    · next hmore =>
      exact List.forall_mem_cons.2 ⟨rfl, fun c hc => h c (List.mem_of_mem_drop hc)⟩

theorem isSpace_of_mem_print : ∀ m : Number, ∀ c ∈ m.print, isSpace c = false
  | .whole n => isSpace_of_mem_decimal
  | .negative n => List.forall_mem_cons.2 ⟨rfl, isSpace_of_mem_decimal⟩
  | .real x => by
    have hsign : ∀ c ∈ (if x.negative then ['-'] else []), isSpace c = false := by
      split <;> simp [isSpace]
    refine List.forall_mem_append.2 ⟨hsign, ?_⟩
    rw [realDigits]
    split
    · simp [isSpace]
    · dsimp only
      split
      · exact isSpace_of_mem_placePoint isSpace_of_mem_decimal _
      · exact isSpace_of_mem_withExponent isSpace_of_mem_decimal _

theorem value_eq_num {d : Doc} {depth : Nat} {n : Number} (h : d.value depth = .ok (.num n)) :
    d = .num (.ok n) := by
  cases d with
  | broken => cases h
  | null => cases h
  | bool => cases h
  | num v =>
    cases v with
    | ok m =>
      obtain rfl : m = n := by simpa [Doc.value, Except.map] using h
      rfl
    | error f => cases h
  | str s => cases s <;> cases h
  | arr items =>
    rw [Doc.value] at h
    split at h
    · cases h
    · cases hitems : Items.values (depth - 1) items <;> simp [hitems, Except.map] at h
  | obj entries =>
    rw [Doc.value] at h
    split at h
    · cases h
    · cases hentries : Entries.fields (depth - 1) [] entries <;> simp [hentries, Except.map] at h

/-- A text has a value just if its document has and nothing but blanks follows. -/
theorem ofText_eq_ok_iff {s : String} {j : Json} : ofText s = .ok j ↔
    (readText s.toList).doc.value depthLimit = .ok j ∧ (readText s.toList).trailing = false := by
  rw [ofText]
  cases (readText s.toList).doc.value depthLimit with
  | error f => simp [bind, Except.bind]
  | ok v => cases (readText s.toList).trailing <;> simp [bind, Except.bind, pure, Except.pure]

theorem endsNumeral_nil : EndsNumeral [] := by
  simp [EndsNumeral]

/-- A number that reads back from its text alone reads back wherever its text stands. -/
theorem legible_of_ofText {m : Number} (h : ofText (toCompact (.num m)) = .ok (.num m)) :
    m.Legible := by
  have hcompact : (toCompact (.num m)).toList = m.print := by
    rw [toCompact, compact, String.toList_ofList]
  rw [ofText_eq_ok_iff, hcompact] at h
  obtain ⟨hvalue, htrailing⟩ := h
  have hnum : (readValue (3 * m.print.length + 3) m.print).value = .num (.ok m) :=
    value_eq_num hvalue
  obtain ⟨rest, hsuffix, hread⟩ := settled_readValue hnum
  -- What is left of the number's own text is blank, and that text holds no blanks.
  have hrest : rest = [] := by
    have hend := hread (3 * m.print.length + 2) endsNumeral_nil
    rw [List.append_nil, List.append_nil] at hend
    have hblank : skipSpace rest = [] := by simpa [readText, hend] using htrailing
    cases rest with
    | nil => rfl
    | cons c rest =>
      have hc := isSpace_of_mem_print m c (hsuffix.subset List.mem_cons_self)
      simp [skipSpace, hc] at hblank
  intro fuel more hmore
  simpa [hrest] using hread fuel hmore

end ErrorGuide.Json
