import ErrorGuide.Proofs.Template.Placeholder

/-! Rendering, by the tokens of the template. The template alone says which they are, and each is
replaced by the value of its key; values are not looked into. Values without braces leave no token
behind, so rendering what was rendered changes nothing. -/

namespace ErrorGuide.Template
variable {cs before inside extra rest : List Char}

/-- No pair of opening braces starts in the text, whatever follows it. -/
def Unopened (cs : List Char) : Prop := ∀ a b, cs ++ ['\x7b'] ≠ a ++ (opening ++ b)

theorem unopened_of_not_mem (h : '\x7b' ∉ cs) : Unopened cs := by
  intro a b hsplit
  have hcount := congrArg (List.count '\x7b') hsplit
  rw [List.count_append, List.count_append, List.count_append, List.count_eq_zero.2 h] at hcount
  have hone : List.count '\x7b' ['\x7b'] = 1 := rfl
  have htwo : List.count '\x7b' opening = 2 := rfl
  omega

/-- The text before the first token has no pair of opening braces and does not end in one. -/
theorem FirstToken.unopened (h : FirstToken cs before inside extra rest) : Unopened before := by
  intro a b hsplit
  have hearlier : cs = a ++ (opening ++
      ((b ++ '\x7b' :: inside) ++ (closing ++ (extra ++ rest)))) := by
    have hcs : cs = (before ++ ['\x7b']) ++
        ('\x7b' :: (inside ++ (closing ++ (extra ++ rest)))) := by
      rw [h.split, List.append_assoc]
      rfl
    rw [hcs, hsplit]
    simp only [List.append_assoc, List.cons_append]
  have hle := h.leftmost _ _ _ hearlier
  have hlength := congrArg List.length hsplit
  simp only [opening, List.length_append, List.length_cons, List.length_nil] at hlength
  omega

/-- A token of two texts in a row is one of the second if none starts in the first. -/
theorem HasToken.of_append {u v : List Char} (h : HasToken (u ++ v)) (hu : Unopened u) :
    HasToken v := by
  obtain ⟨a, inside, rest, hsplit⟩ := h
  rcases List.append_eq_append_iff.1 hsplit with ⟨a', -, hv⟩ | ⟨u', hua, hv⟩
  · exact ⟨a', inside, rest, hv⟩
  · match u' with
    | [] => exact ⟨[], inside, rest, hv.symm⟩
    | [c] =>
      obtain ⟨rfl, -⟩ := List.cons.inj hv
      exact absurd (by rw [hua, List.append_assoc]; rfl) (hu a [])
    | c :: d :: u' =>
      obtain ⟨rfl, htail⟩ := List.cons.inj hv
      obtain ⟨rfl, -⟩ := List.cons.inj htail
      exact absurd (by rw [hua, List.append_assoc]; rfl) (hu a (u' ++ ['\x7b']))

structure Context.BraceFree (ctx : Context) : Prop where
  loc : ∀ c ∈ ctx.loc.toList, c ≠ '\x7b' ∧ c ≠ '\x7d'
  name : ∀ c ∈ ctx.name.toList, c ≠ '\x7b' ∧ c ≠ '\x7d'
  codeLine : ∀ c ∈ ctx.codeLine.toList, c ≠ '\x7b' ∧ c ≠ '\x7d'

theorem noBraces_of_all {text : String}
    (h : text.toList.all (fun c => c != '\x7b' && c != '\x7d') = true) :
    ∀ c ∈ text.toList, c ≠ '\x7b' ∧ c ≠ '\x7d' := by
  intro c hc
  have hboth := List.all_eq_true.1 h c hc
  rwa [Bool.and_eq_true, bne_iff_ne, bne_iff_ne] at hboth

theorem Context.BraceFree.fill_key {ctx : Context} (h : ctx.BraceFree) (name : String) :
    ∀ c ∈ (Segment.key name).fill ctx, c ≠ '\x7b' ∧ c ≠ '\x7d' := by
  unfold Segment.fill
  split
  · cases ‹Segment.key _ = _›
  · exact h.loc
  · exact h.name
  · exact h.codeLine
  · exact List.forall_mem_nil _

/-- Filled with values without braces, the segments of a text have no token. -/
theorem Scans.not_hasToken {segments : List Segment} (h : Scans cs segments) {ctx : Context}
    (hctx : ctx.BraceFree) : ¬HasToken (segments.flatMap (Segment.fill ctx)) := by
  induction h with
  | @done cs hno =>
    rw [List.flatMap_singleton]
    exact hno
  | @token cs before inside extra rest segments first scans ih =>
    intro htoken
    have hvalue : Unopened ((Segment.key (keyOf inside)).fill ctx) :=
      unopened_of_not_mem fun hmem => (hctx.fill_key _ _ hmem).1 rfl
    rw [List.flatMap_cons, List.flatMap_cons] at htoken
    exact ih ((htoken.of_append first.unopened).of_append hvalue)

theorem Scans.render_eq {template : String} {segments : List Segment}
    (h : Scans template.toList segments) (ctx : Context) :
    render template ctx = String.ofList (segments.flatMap (Segment.fill ctx)) := by
  rw [render, h.flatMap_pieces]

/-- A text without a token stays as it is. -/
theorem render_of_not_hasToken {template : String} (h : ¬HasToken template.toList) (ctx : Context) :
    render template ctx = template := by
  rw [(Scans.done h).render_eq, List.flatMap_singleton]
  exact String.ofList_toList

/-- What is rendered comes of replacing all matches of the pattern of a placeholder. -/
theorem render_eq_rewriteAll (template : String) (ctx : Context) :
    render template ctx = placeholder.rewriteAll (valueIn ctx) template := by
  obtain ⟨segments, hscans⟩ := exists_scans template.toList
  have hfuel : template.toList.length < 2 * template.toList.length + 2 := by omega
  rw [hscans.render_eq, Pattern.Program.rewriteAll]
  exact congrArg String.ofList (rewriteFrom_of_scans hscans ctx hfuel none false).symm

/-- Without values, rendering takes the placeholders out. -/
theorem render_eq_replaceAll (template : String) :
    render template {} = placeholder.replaceAll "" template := by
  have hvalue : valueIn {} = fun _ => "" := by
    funext found
    simp [valueIn, Context.get]
  rw [render_eq_rewriteAll, hvalue, Pattern.Program.rewriteAll_const]

/-- A template has one list of segments, which hangs on no value: its tokens from the left, and the
text between them. Every rendering puts the segments together, each token with the value of its key,
and a text without a token stays as it is. The same comes of replacing all matches of the pattern of
a placeholder. -/
theorem render_scans (template : String) :
    ∃ segments pattern, Scans template.toList segments ∧
      (∀ others, Scans template.toList others → others = segments) ∧
      (∀ ctx, render template ctx = String.ofList (segments.flatMap (Segment.fill ctx))) ∧
      (¬HasToken template.toList →
        segments = [.text template.toList] ∧ ∀ ctx, render template ctx = template) ∧
      Pattern.compile placeholderPattern = .ok pattern ∧
      ∀ ctx, render template ctx = pattern.rewriteAll (valueIn ctx) template := by
  obtain ⟨segments, hscans⟩ := exists_scans template.toList
  refine ⟨segments, placeholder, hscans, fun others hothers => hscans.unique hothers,
    hscans.render_eq, fun hno => ?_, compile_placeholderPattern, render_eq_rewriteAll template⟩
  exact ⟨Scans.unique (.done hno) hscans, render_of_not_hasToken hno⟩

/-- A value that looks like a placeholder is not one. -/
example : render "\x7b\x7b codeLine \x7d\x7d\x7d" ⟨"", "kittens", "\x7b\x7bname\x7d\x7d"⟩ =
    "\x7b\x7bname\x7d\x7d" := by
  cbv

/-- What is rendered with values without braces has no pair of opening braces with a pair of closing
ones after it, and to render it again changes nothing, whatever the values are then. -/
theorem render_leaves_no_token {ctx : Context} (h : ctx.BraceFree) (template : String) :
    ¬HasToken (render template ctx).toList ∧
      ∀ ctx', render (render template ctx) ctx' = render template ctx := by
  have hno : ¬HasToken (render template ctx).toList := by
    obtain ⟨segments, hscans⟩ := exists_scans template.toList
    rw [hscans.render_eq, String.toList_ofList]
    exact hscans.not_hasToken h
  exact ⟨hno, render_of_not_hasToken hno⟩

/-- A token within braces leaves a pair of closing braces alone. -/
theorem render_leaves_no_token_nested :
    render "\x7b\x7b \x7b\x7bname\x7d\x7d \x7d\x7d" ⟨"line 1", "kittens", ""⟩ = "kittens \x7d\x7d" ∧
      ¬HasToken "kittens \x7d\x7d".toList ∧
      ∀ ctx', render "kittens \x7d\x7d" ctx' = "kittens \x7d\x7d" := by
  have hfree : Context.BraceFree ⟨"line 1", "kittens", ""⟩ :=
    ⟨noBraces_of_all (by decide), noBraces_of_all (by decide), noBraces_of_all (by decide)⟩
  have hrender : render "\x7b\x7b \x7b\x7bname\x7d\x7d \x7d\x7d" ⟨"line 1", "kittens", ""⟩ =
      "kittens \x7d\x7d" := by cbv
  have hleaves := render_leaves_no_token hfree "\x7b\x7b \x7b\x7bname\x7d\x7d \x7d\x7d"
  rw [hrender] at hleaves
  exact ⟨hrender, hleaves⟩

end ErrorGuide.Template
