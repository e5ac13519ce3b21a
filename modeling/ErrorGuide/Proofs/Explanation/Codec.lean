import ErrorGuide.Proofs.Explanation.VariantId
import ErrorGuide.Proofs.Trace.Codec
import ErrorGuide.Report.Format

/-! Explanations read back from JSON, as far as their variants have a kind. -/

namespace ErrorGuide
open Json

namespace VariantId
variable {g : Json → Json} (hg : Reordering g) (id : VariantId)
include hg

theorem decode_encode_eq :
    decode (toDoc (g id.encode)) =
      if id.kind = "" then .error (.refused (Fault.malformed id.text).message) else .ok id := by
  rw [decode, encode, text_str hg, ok_bind, ofText_text]
  split <;> rfl

end VariantId

namespace Explanation
variable (e : Explanation)

def slots (seen : List String) : Slots where
  trace := met seen "trace" e.trace
  variantId := met seen "variantId" e.variantId
  title := met seen "title" e.title
  summary := met seen "summary" e.summary
  why := met seen "why" e.why
  steps := met seen "steps" e.steps
  badges := met seen "badges" e.badges
  patch := met seen "patch" e.patch
  html := met seen "html" e.html

/-- The names of the fields that an explanation has. -/
theorem mem_names {name : String} : name ∈ e.encode.fields.map (·.1) ↔
    name = "trace" ∨ name = "variantId" ∨ name = "title" ∨ name = "summary" ∨
      name = "why" ∧ e.why.isSome = true ∨ name = "steps" ∧ e.steps ≠ [] ∨
      name = "badges" ∧ e.badges ≠ [] ∨ name = "patch" ∧ e.patch.isSome = true ∨
      name = "html" ∧ e.html.isSome = true := by
  simp only [encode, fields, List.map_append, List.mem_append, mem_names_optionalField,
    mem_names_listField, List.map_cons, List.map_nil, List.mem_cons, List.not_mem_nil, or_false,
    or_assoc]

theorem nodup_fields : (e.encode.fields.map (·.1)).Nodup := by
  have hsub : (e.encode.fields.map (·.1)).Sublist (["trace", "variantId", "title", "summary"] ++
      ["why"] ++ ["steps"] ++ ["badges"] ++ ["patch"] ++ ["html"]) := by
    simp only [encode, fields, List.map_append]
    repeat' apply List.Sublist.append
    all_goals simp only [List.map_cons, List.map_nil, List.Sublist.refl,
      names_optionalField_sublist, names_listField_sublist]
  exact hsub.nodup (by decide)

theorem readable_encode : Readable 4 e.encode := by
  have htrace : Readable 3 e.trace.encode := e.trace.readable_encode
  have hid : Readable 3 e.variantId.encode := readable_str _
  refine readable_obj ?_
  simp only [readableFields_append, readableFields_cons, readableFields_nil,
    readableFields_optional, readableFields_list, readable_str, htrace, hid, implies_true,
    and_self]

/-- What is decoded from the JSON text is what is decoded from the value. -/
theorem decodeText_json (labels : Labels) :
    decodeText decode (e.render labels .json) = decode .text (toDoc e.encode) :=
  decodeText_of_readText decode (readText_toPretty_newline e.readable_encode.legible)

section Decoding
variable {g : Json → Json} (hg : Reordering g)
include hg

theorem step_slots (hid : e.variantId.kind ≠ "") (origin : Origin) {seen : List String}
    {name : String} {v : Json} (hv : (name, v) ∈ e.encode.fields) (hname : name ∉ seen) :
    Slots.step origin (e.slots seen) name (toDoc (g v)) = .ok (e.slots (name :: seen)) := by
  simp only [encode, fields, List.mem_append, List.mem_cons, List.not_mem_nil, or_false,
    Prod.mk.injEq, mem_optionalField, mem_listField, or_assoc] at hv
  obtain ⟨rfl, rfl⟩ | ⟨rfl, rfl⟩ | ⟨rfl, rfl⟩ | ⟨rfl, rfl⟩ | ⟨rfl, why, hwhy, rfl⟩ |
    ⟨rfl, -, rfl⟩ | ⟨rfl, -, rfl⟩ | ⟨rfl, patch, hpatch, rfl⟩ | ⟨rfl, html, hhtml, rfl⟩ := hv
  · have htrace := Trace.decode_encode hg e.trace origin
    simp [Slots.step, slots, slot_met hname htrace, ok_bind, pure_eq_ok, met_cons]
  · have hvariant : VariantId.decode (toDoc (g e.variantId.encode)) = .ok e.variantId := by
      rw [VariantId.decode_encode_eq hg, if_neg hid]
    simp [Slots.step, slots, slot_met hname hvariant, ok_bind, pure_eq_ok, met_cons]
  · simp [Slots.step, slots, slot_met hname (text_str hg e.title), ok_bind, pure_eq_ok, met_cons]
  · simp [Slots.step, slots, slot_met hname (text_str hg e.summary), ok_bind, pure_eq_ok, met_cons]
  · simp [Slots.step, slots, slot_met hname (optional_text hg why), ok_bind, pure_eq_ok, met_cons,
      hwhy]
  · have hsteps := list_map hg (text_str hg) e.steps
    simp [Slots.step, slots, slot_met hname hsteps, ok_bind, pure_eq_ok, met_cons]
  · have hbadges := list_map hg (text_str hg) e.badges
    simp [Slots.step, slots, slot_met hname hbadges, ok_bind, pure_eq_ok, met_cons]
  · simp [Slots.step, slots, slot_met hname (optional_text hg patch), ok_bind, pure_eq_ok, met_cons,
      hpatch]
  · simp [Slots.step, slots, slot_met hname (optional_text hg html), ok_bind, pure_eq_ok, met_cons,
      hhtml]

theorem decode_encode (hid : e.variantId.kind ≠ "") (origin : Origin) :
    decode origin (toDoc (g e.encode)) = .ok e := by
  refine record_reordered hg e.slots (fun _ => rfl) e.nodup_fields
    (fun seen name v => e.step_slots hg hid origin) fun seen hseen => ?_
  have htrace := met_of_mem e.trace (hseen "trace" (e.mem_names.2 (by simp)))
  have hvariant := met_of_mem e.variantId (hseen "variantId" (e.mem_names.2 (by simp)))
  have htitle := met_of_mem e.title (hseen "title" (e.mem_names.2 (by simp)))
  have hsummary := met_of_mem e.summary (hseen "summary" (e.mem_names.2 (by simp)))
  have hwhy := join_met e.why fun h => hseen "why" (e.mem_names.2 (by simp [h]))
  have hsteps := getD_met e.steps [] fun h => hseen "steps" (e.mem_names.2 (by simp [h]))
  have hbadges := getD_met e.badges [] fun h => hseen "badges" (e.mem_names.2 (by simp [h]))
  have hpatch := join_met e.patch fun h => hseen "patch" (e.mem_names.2 (by simp [h]))
  have hhtml := join_met e.html fun h => hseen "html" (e.mem_names.2 (by simp [h]))
  simp only [slots, htrace, hvariant, htitle, hsummary, hwhy, hsteps, hbadges, hpatch, hhtml,
    required, ok_bind, pure_eq_ok]

end Decoding

/-- The JSON text of an explanation whose variant has a kind loses nothing. -/
theorem of_json_text (hid : e.variantId.kind ≠ "") (labels : Labels) :
    decodeText decode (e.render labels .json) = .ok e := by
  rw [decodeText_json]
  exact e.decode_encode reordering_id hid .text

/-- A kind that holds the separator, and characters that are escaped. -/
theorem of_json_text_separator :
    decodeText decode (render
        { trace := .ofRaw "\"\x00\\", variantId := ⟨"a/variants/1/variants", 7⟩, title := "é"
          summary := "", why := some "", steps := ["\n"] } {} .json) =
      .ok { trace := .ofRaw "\"\x00\\", variantId := ⟨"a/variants/1/variants", 7⟩, title := "é"
            summary := "", why := some "", steps := ["\n"] } :=
  of_json_text _ (by decide) {}

end Explanation
end ErrorGuide
