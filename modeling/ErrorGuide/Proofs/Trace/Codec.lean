import ErrorGuide.Proofs.Json.Nesting

/-! Traces read back from JSON. -/

namespace ErrorGuide
open Json

namespace Frame
variable {g : Json → Json} (hg : Reordering g) (f : Frame)

def slots (seen : List String) : Slots where
  file := met seen "file" f.file
  line := met seen "line" f.line
  func := met seen "func" f.func

theorem mem_names {name : String} : name ∈ f.encode.fields.map (·.1) ↔
    (name = "file" ∧ f.file.isSome = true ∨ name = "line" ∧ f.line.isSome = true) ∨
      name = "func" ∧ f.func.isSome = true := by
  simp only [encode, fields, List.map_append, List.mem_append, mem_names_optionalField]

theorem nodup_fields : (f.encode.fields.map (·.1)).Nodup := by
  have hsub : (f.encode.fields.map (·.1)).Sublist ["file", "line", "func"] := by
    simp only [encode, fields, List.map_append]
    exact ((names_optionalField_sublist ..).append (names_optionalField_sublist ..)).append
      (names_optionalField_sublist ..)
  exact hsub.nodup (by decide)

theorem readable_encode : Readable 1 f.encode := by
  refine readable_obj ?_
  simp only [readableFields_append, readableFields_optional, readable_str, readable_word,
    implies_true, and_self]

include hg

theorem step_slots {seen : List String} {name : String} {v : Json}
    (hv : (name, v) ∈ f.encode.fields) (hname : name ∉ seen) :
    Slots.step (f.slots seen) name (toDoc (g v)) = .ok (f.slots (name :: seen)) := by
  simp only [encode, fields, List.mem_append, mem_optionalField] at hv
  obtain (⟨rfl, file, hfile, rfl⟩ | ⟨rfl, line, hline, rfl⟩) | ⟨rfl, func, hfunc, rfl⟩ := hv
  · simp [Slots.step, slots, slot_met hname (optional_text hg file), ok_bind, pure_eq_ok, met_cons,
      hfile]
  · simp [Slots.step, slots, slot_met hname (optional_word hg line), ok_bind, pure_eq_ok, met_cons,
      hline]
  · simp [Slots.step, slots, slot_met hname (optional_text hg func), ok_bind, pure_eq_ok, met_cons,
      hfunc]

theorem decode_encode (origin : Origin) : decode origin (toDoc (g f.encode)) = .ok f := by
  refine record_reordered hg f.slots (fun _ => rfl) f.nodup_fields
    (fun seen name v => f.step_slots hg) fun seen hseen => ?_
  have hfile := join_met f.file fun h => hseen "file" (f.mem_names.2 (by simp [h]))
  have hline := join_met f.line fun h => hseen "line" (f.mem_names.2 (by simp [h]))
  have hfunc := join_met f.func fun h => hseen "func" (f.mem_names.2 (by simp [h]))
  simp only [slots, hfile, hline, hfunc, pure_eq_ok]

end Frame

namespace Runtime

theorem decode_encode {g : Json → Json} (hg : Reordering g) (origin : Origin) (r : Runtime) :
    decode origin (toDoc (g r.encode)) = .ok r := by
  rw [encode, hg.str, toDoc]
  cases origin <;> cases r <;> rfl

end Runtime

namespace Trace
variable {g : Json → Json} (hg : Reordering g) (t : Trace)

def slots (seen : List String) : Slots where
  kind := met seen "type" t.kind
  message := met seen "message" t.message
  raw := met seen "raw" t.raw
  file := met seen "file" t.file
  line := met seen "line" t.line
  col := met seen "col" t.col
  frames := met seen "frames" t.frames
  name := met seen "name" t.name
  codeLine := met seen "codeLine" t.codeLine
  codeBefore := met seen "codeBefore" t.codeBefore
  codeAfter := met seen "codeAfter" t.codeAfter
  runtime := met seen "runtime" t.runtime

/-- The names of the fields that a trace has. -/
theorem mem_names {name : String} : name ∈ t.encode.fields.map (·.1) ↔
    name = "type" ∨ name = "message" ∨ name = "raw" ∨ name = "file" ∧ t.file.isSome = true ∨
      name = "line" ∧ t.line.isSome = true ∨ name = "col" ∧ t.col.isSome = true ∨
      name = "frames" ∧ t.frames ≠ [] ∨ name = "name" ∧ t.name.isSome = true ∨
      name = "codeLine" ∧ t.codeLine.isSome = true ∨ name = "codeBefore" ∧ t.codeBefore ≠ [] ∨
      name = "codeAfter" ∧ t.codeAfter ≠ [] ∨ name = "runtime" := by
  simp only [encode, fields, List.map_append, List.mem_append, mem_names_optionalField,
    mem_names_listField, List.map_cons, List.map_nil, List.mem_cons, List.not_mem_nil, or_false,
    or_assoc]

theorem nodup_fields : (t.encode.fields.map (·.1)).Nodup := by
  have hsub : (t.encode.fields.map (·.1)).Sublist (["type", "message", "raw"] ++ ["file"] ++
      ["line"] ++ ["col"] ++ ["frames"] ++ ["name"] ++ ["codeLine"] ++ ["codeBefore"] ++
      ["codeAfter"] ++ ["runtime"]) := by
    simp only [encode, fields, List.map_append]
    repeat' apply List.Sublist.append
    all_goals simp only [List.map_cons, List.map_nil, List.Sublist.refl,
      names_optionalField_sublist, names_listField_sublist]
  exact hsub.nodup (by decide)

theorem readable_encode : Readable 3 t.encode := by
  have hruntime : Readable 2 t.runtime.encode := readable_str _
  refine readable_obj ?_
  simp only [readableFields_append, readableFields_cons, readableFields_nil,
    readableFields_optional, readableFields_list, readable_str, readable_word,
    Frame.readable_encode, hruntime, implies_true, and_true]
  cases t.kind with
  | none => exact readable_null
  | some k => exact readable_str k

include hg

theorem step_slots (origin : Origin) {seen : List String} {name : String} {v : Json}
    (hv : (name, v) ∈ t.encode.fields) (hname : name ∉ seen) :
    Slots.step origin (t.slots seen) name (toDoc (g v)) = .ok (t.slots (name :: seen)) := by
  simp only [encode, fields, List.mem_append, List.mem_cons, List.not_mem_nil, or_false,
    Prod.mk.injEq, mem_optionalField, mem_listField, or_assoc] at hv
  obtain ⟨rfl, hv⟩ | ⟨rfl, rfl⟩ | ⟨rfl, rfl⟩ | ⟨rfl, file, hfile, rfl⟩ | ⟨rfl, line, hline, rfl⟩ |
    ⟨rfl, col, hcol, rfl⟩ | ⟨rfl, -, rfl⟩ | ⟨rfl, name, hquoted, rfl⟩ | ⟨rfl, code, hcode, rfl⟩ |
    ⟨rfl, -, rfl⟩ | ⟨rfl, -, rfl⟩ | ⟨rfl, rfl⟩ := hv
  · have hkind : optional text (toDoc (g v)) = .ok t.kind := by
      rw [hv]
      cases t.kind with
      | none =>
        rw [hg.null]
        rfl
      | some k => exact optional_text hg k
    simp [Slots.step, slots, slot_met hname hkind, ok_bind, pure_eq_ok, met_cons]
  · simp [Slots.step, slots, slot_met hname (text_str hg t.message), ok_bind, pure_eq_ok, met_cons]
  · simp [Slots.step, slots, slot_met hname (text_str hg t.raw), ok_bind, pure_eq_ok, met_cons]
  · simp [Slots.step, slots, slot_met hname (optional_text hg file), ok_bind, pure_eq_ok, met_cons,
      hfile]
  · simp [Slots.step, slots, slot_met hname (optional_word hg line), ok_bind, pure_eq_ok, met_cons,
      hline]
  · simp [Slots.step, slots, slot_met hname (optional_word hg col), ok_bind, pure_eq_ok, met_cons,
      hcol]
  · have hframes := list_map hg (fun f => Frame.decode_encode hg f origin) t.frames
    simp [Slots.step, slots, slot_met hname hframes, ok_bind, pure_eq_ok, met_cons]
  · simp [Slots.step, slots, slot_met hname (optional_text hg name), ok_bind, pure_eq_ok, met_cons,
      hquoted]
  · simp [Slots.step, slots, slot_met hname (optional_text hg code), ok_bind, pure_eq_ok, met_cons,
      hcode]
  · have hbefore := list_map hg (text_str hg) t.codeBefore
    simp [Slots.step, slots, slot_met hname hbefore, ok_bind, pure_eq_ok, met_cons]
  · have hafter := list_map hg (text_str hg) t.codeAfter
    simp [Slots.step, slots, slot_met hname hafter, ok_bind, pure_eq_ok, met_cons]
  · have hruntime := Runtime.decode_encode hg origin t.runtime
    simp [Slots.step, slots, slot_met hname hruntime, ok_bind, pure_eq_ok, met_cons]

theorem decode_encode (origin : Origin) : decode origin (toDoc (g t.encode)) = .ok t := by
  refine record_reordered hg t.slots (fun _ => rfl) t.nodup_fields
    (fun seen name v => t.step_slots hg origin) fun seen hseen => ?_
  have hkind := met_of_mem t.kind (hseen "type" (t.mem_names.2 (by simp)))
  have hmessage := met_of_mem t.message (hseen "message" (t.mem_names.2 (by simp)))
  have hraw := met_of_mem t.raw (hseen "raw" (t.mem_names.2 (by simp)))
  have hfile := join_met t.file fun h => hseen "file" (t.mem_names.2 (by simp [h]))
  have hline := join_met t.line fun h => hseen "line" (t.mem_names.2 (by simp [h]))
  have hcol := join_met t.col fun h => hseen "col" (t.mem_names.2 (by simp [h]))
  have hframes := getD_met t.frames [] fun h => hseen "frames" (t.mem_names.2 (by simp [h]))
  have hname := join_met t.name fun h => hseen "name" (t.mem_names.2 (by simp [h]))
  have hcode := join_met t.codeLine fun h => hseen "codeLine" (t.mem_names.2 (by simp [h]))
  have hbefore := getD_met t.codeBefore [] fun h => hseen "codeBefore" (t.mem_names.2 (by simp [h]))
  have hafter := getD_met t.codeAfter [] fun h => hseen "codeAfter" (t.mem_names.2 (by simp [h]))
  have hruntime := met_of_mem t.runtime (hseen "runtime" (t.mem_names.2 (by simp)))
  simp only [slots, hkind, hmessage, hraw, hfile, hline, hcol, hframes, hname, hcode, hbefore,
    hafter, hruntime, required, ok_bind, pure_eq_ok]
  rfl

end Trace
end ErrorGuide
