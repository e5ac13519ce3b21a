import ErrorGuide.Html.Fragment

/-! The markup of a text: the characters in it that could open, close or quote markup. Escaped text
has none, so the markup of a fragment is that of its own tags and of its summary, rationale and
steps. -/

namespace ErrorGuide.Html
open Text

def markup (s : String) : List Char := s.toList.filter isMarkup

@[simp] theorem markup_append (s t : String) : markup (s ++ t) = markup s ++ markup t := by
  simp [markup]

theorem filter_escapeChar (c : Char) : (escapeChar c).filter isMarkup = [] := by
  unfold escapeChar
  repeat' split
  all_goals simp_all [isMarkup]

@[simp] theorem markup_escape (s : String) : markup (escape s) = [] := by
  rw [markup, escape, String.toList_ofList, escapeChars, List.filter_flatMap]
  exact List.flatMap_eq_nil_iff.2 fun c _ => filter_escapeChar c

theorem markup_concat (l : List String) : markup (concat l) = l.flatMap markup := by
  induction l with
  | nil => rfl
  | cons s l ih => simp [concat, ih]

theorem markup_join {sep : String} (hsep : markup sep = []) (l : List String) :
    markup (join sep l) = l.flatMap markup := by
  induction l with
  | nil => rfl
  | cons s l ih =>
    cases l with
    | nil => simp [join]
    | cons t l => simp only [join, markup_append, hsep, ih, List.append_nil, List.flatMap_cons]

/-- The texts of a fragment in the form in which they stand in it. -/
structure Cells where
  title : String
  summary : String
  why : Option String
  steps : List String
  patch : Option String
  detailsLabel : String
  details : String

def enclose (opening closing text : String) : String := opening ++ text ++ closing

theorem markup_enclose (opening closing text : String) :
    markup (enclose opening closing text) = markup opening ++ markup text ++ markup closing := by
  simp [enclose]

/-- Tags around texts leave the markup of each where it is. -/
theorem flatMap_markup_enclose (opening closing : String) (l : List String) :
    (l.map (enclose opening closing)).flatMap markup =
      (l.map markup).flatMap fun m => markup opening ++ m ++ markup closing := by
  simp only [List.flatMap_map, markup_enclose]

namespace Cells

def lines (c : Cells) : List String :=
  [enclose "<div class=\"pfem__title\">" "</div>" c.title,
    enclose "<div class=\"pfem__summary\">" "</div>" c.summary] ++
  (c.why.map (enclose "<div class=\"pfem__why\">" "</div>")).toList ++
  (if c.steps = [] then [] else
    [enclose "<ul class=\"pfem__steps\">" "</ul>" (concat (c.steps.map (enclose "<li>" "</li>")))]) ++
  (c.patch.map (enclose "<pre class=\"pfem__patch\">" "</pre>")).toList ++
  ["<details class=\"pfem__details\"><summary>" ++ c.detailsLabel ++ "</summary><pre>" ++
    c.details ++ "</pre></details>"]

def text (c : Cells) : String := join "\n" c.lines

/-- The texts that are not HTML of their own have no markup. -/
structure Escaped (c : Cells) : Prop where
  title : markup c.title = []
  patch : ∀ p ∈ c.patch, markup p = []
  detailsLabel : markup c.detailsLabel = []
  details : markup c.details = []

structure Alike (c c' : Cells) : Prop where
  title : markup c.title = markup c'.title
  summary : markup c.summary = markup c'.summary
  why : c.why.map markup = c'.why.map markup
  steps : c.steps.map markup = c'.steps.map markup
  patch : c.patch.map markup = c'.patch.map markup
  detailsLabel : markup c.detailsLabel = markup c'.detailsLabel
  details : markup c.details = markup c'.details

end Cells

def Fragment.cells (f : Fragment) : Cells where
  title := escape f.title
  summary := f.summary
  why := f.why
  steps := f.steps
  patch := f.patch.map escape
  detailsLabel := escape f.detailsLabel
  details := escape f.details

theorem Fragment.render_eq_text (f : Fragment) : f.render = f.cells.text := by
  have hpatch : (f.patch.map escape).map (enclose "<pre class=\"pfem__patch\">" "</pre>") =
      f.patch.map patchPart := by
    rw [Option.map_map]
    rfl
  rw [render, Cells.text, parts, Cells.lines]
  simp only [cells, hpatch]
  rfl

theorem Fragment.escaped_cells (f : Fragment) : f.cells.Escaped where
  title := markup_escape f.title
  patch p hp := by
    obtain ⟨s, -, rfl⟩ := Option.map_eq_some_iff.1 hp
    exact markup_escape s
  detailsLabel := markup_escape f.detailsLabel
  details := markup_escape f.details

/-- The markup of a fragment depends on no more than the markup of its texts. -/
theorem Cells.Alike.markup_text {c c' : Cells} (h : c.Alike c') :
    markup c.text = markup c'.text := by
  have hwhy : c.why.toList.map markup = c'.why.toList.map markup := by
    simpa only [Option.toList_map] using congrArg Option.toList h.why
  have hpatch : c.patch.toList.map markup = c'.patch.toList.map markup := by
    simpa only [Option.toList_map] using congrArg Option.toList h.patch
  have hempty : c.steps = [] ↔ c'.steps = [] := by
    rw [← List.map_eq_nil_iff (f := markup), h.steps, List.map_eq_nil_iff]
  rw [text, text, markup_join (by rfl), markup_join (by rfl), lines, lines]
  simp only [List.flatMap_append, Option.toList_map, flatMap_markup_enclose, hwhy, hpatch]
  by_cases hs : c.steps = []
  · have hs' := hempty.1 hs
    simp [hs, hs', markup_enclose, h.title, h.summary, h.detailsLabel, h.details]
  · have hs' := mt hempty.2 hs
    simp only [hs, hs', if_false, List.flatMap_cons, List.flatMap_nil, markup_append,
      markup_enclose, markup_concat, flatMap_markup_enclose, h.title, h.summary, h.steps,
      h.detailsLabel, h.details]

end ErrorGuide.Html
