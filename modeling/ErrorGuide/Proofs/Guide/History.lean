import ErrorGuide.Guide
import ErrorGuide.Proofs.Data.OrderedMap
import ErrorGuide.Proofs.Explanation.Outcome

/-! What has become of a guide after any number of loads and registrations. Only the last deck
counts. A name keeps the place of its first registration and has the adapter of its last one. -/

namespace ErrorGuide

namespace Registry

def ofList (given : List (String × Adapter)) : Registry := ⟨.ofList given⟩

theorem names_ofList (given : List (String × Adapter)) :
    (ofList given).names = (given.map (·.1)).eraseDups :=
  OrderedMap.keys_ofList given

/-- To register again is to register after what was registered before. -/
theorem foldl_register (given more : List (String × Adapter)) :
    more.foldl (fun r e => r.register e.1 e.2) (ofList given) = ofList (given ++ more) := by
  induction more generalizing given with
  | nil => rw [List.foldl_nil, List.append_nil]
  | cons e more ih =>
    have hstep : (ofList given).register e.1 e.2 = ofList (given ++ [e]) :=
      congrArg Registry.mk (OrderedMap.ofList_concat given e.1 e.2).symm
    rw [List.foldl_cons, hstep, ih, List.append_assoc, List.singleton_append]

theorem names_register_of_mem {r : Registry} {name : String} (h : name ∈ r.names) (a : Adapter) :
    (r.register name a).names = r.names := by
  have hmem : name ∈ r.adapters.keys := h
  have hkeys := r.adapters.keys_insert name a
  rwa [if_pos hmem] at hkeys

/-- The first adapter that accepts is found by going through the names. -/
theorem extract_eq (r : Registry) (raw : String) (code : Option String) :
    r.extract raw code = (r.names.findSome? fun name =>
      (r.adapters.get? name).bind fun a => a raw code).getD (Trace.generic raw) :=
  congrArg (·.getD (Trace.generic raw)) (r.adapters.findSome?_entries fun a => a raw code)

end Registry

namespace Guide

inductive Event where
  | load (d : Deck)
  | register (name : String) (a : Adapter)

namespace Event

def deck? : Event → Option Deck
  | load d => some d
  | register _ _ => none

def registration? : Event → Option (String × Adapter)
  | load _ => none
  | register name a => some (name, a)

end Event

def after (g : Guide) : Event → Guide
  | .load d => g.load d
  | .register name a => g.register name a

def run (g : Guide) (events : List Event) : Guide := events.foldl after g

def decks (events : List Event) : List Deck := events.filterMap Event.deck?

def registrations (events : List Event) : List (String × Adapter) :=
  events.filterMap Event.registration?

def fresh (bundled : Bool) : Guide where
  registry := if bundled then .builtin else .empty

def given (bundled : Bool) : List (String × Adapter) :=
  if bundled then [("skulpt", Family.skulpt.extract), ("pyodide", Family.pyodide.extract)] else []

theorem registry_fresh (bundled : Bool) : (fresh bundled).registry = .ofList (given bundled) := by
  cases bundled <;> rfl

/-- Loads and registrations do not meet: each kind of event has its own part of the guide. -/
theorem run_eq (g : Guide) (events : List Event) :
    g.run events =
      { deck := (decks events).getLast?.or g.deck
        registry := (registrations events).foldl (fun r e => r.register e.1 e.2) g.registry } := by
  -- The first event changes the guide, so the rest is met with another one.
  induction events generalizing g with
  | nil => rfl
  | cons event events ih =>
    rw [run, List.foldl_cons]
    refine (ih (g.after event)).trans ?_
    cases event with
    | load d =>
      have hlast : (decks (.load d :: events)).getLast?.or g.deck =
          (decks events).getLast?.or (some d) := by
        change (d :: decks events).getLast?.or g.deck = _
        rw [List.getLast?_cons]
        cases (decks events).getLast? <;> rfl
      rw [hlast]
      rfl
    | register name a => rfl

theorem deck_run_fresh (bundled : Bool) (events : List Event) :
    ((fresh bundled).run events).deck = (decks events).getLast? := by
  rw [run_eq]
  exact Option.or_none

theorem registry_run_fresh (bundled : Bool) (events : List Event) :
    ((fresh bundled).run events).registry = .ofList (given bundled ++ registrations events) := by
  rw [run_eq, registry_fresh]
  exact Registry.foldl_register _ _

theorem explain_eq_error_iff {g : Guide} {r : Request} :
    g.explain r = .error .deckNotLoaded ↔ g.deck = none := by
  unfold explain
  cases g.deck <;> simp

/-- A fresh guide after any events. It explains by the last deck, and fails exactly if there was
none. Its names are the registered ones in the order of their first registration, and each has the
adapter that was last registered under it; the first of these that accepts a text reads it, and the
generic reading is left if none does. Nothing but the last deck and the order of the registrations
matters, and to register a name once more moves neither it nor any other. -/
theorem run_history (bundled : Bool) (events : List Event) :
    let g := (fresh bundled).run events
    let registered := given bundled ++ registrations events
    let names := (registered.map (·.1)).eraseDups
    g.deck = (decks events).getLast? ∧
    (∀ r, g.explain r = .error .deckNotLoaded ↔ decks events = []) ∧
    (∀ d, (decks events).getLast? = some d → ∀ r,
      g.explain r = .ok (d.explain (g.trace r) r.audience r.verbosity)) ∧
    g.registry.names = names ∧
    (∀ name, g.registry.adapters.get? name = registered.reverse.lookup name) ∧
    (∀ raw code, g.registry.extract raw code = (names.findSome? fun name =>
      (registered.reverse.lookup name).bind fun a => a raw code).getD (Trace.generic raw)) ∧
    (∀ events', (decks events').getLast? = (decks events).getLast? →
      registrations events' = registrations events → (fresh bundled).run events' = g) ∧
    ∀ name a, name ∈ names →
      ((fresh bundled).run (events ++ [.register name a])).registry.names = names := by
  have hdeck := deck_run_fresh bundled events
  have hregistry := registry_run_fresh bundled events
  have hnames := congrArg Registry.names hregistry
  rw [Registry.names_ofList] at hnames
  have hlookup := OrderedMap.get?_ofList (given bundled ++ registrations events)
  refine ⟨hdeck, ?_, ?_, hnames, ?_, ?_, ?_, ?_⟩
  · intro r
    rw [explain_eq_error_iff, hdeck, List.getLast?_eq_none_iff]
  · intro d hd r
    exact explain_eq (hdeck.trans hd) r
  · intro name
    rw [hregistry]
    exact hlookup name
  · intro raw code
    rw [Registry.extract_eq, hnames, hregistry]
    simp only [Registry.ofList, hlookup]
  · intro events' hdecks hregistrations
    rw [run_eq, run_eq, hdecks, hregistrations]
  · intro name a hmem
    have hkept : name ∈ ((fresh bundled).run events).registry.names := hnames ▸ hmem
    rw [run, List.foldl_append]
    exact (Registry.names_register_of_mem hkept a).trans hnames

/-- The bundled adapter that is registered anew keeps the first place, before or after the load. -/
theorem run_history_sample :
    let silent : Adapter := fun _ _ => none
    let g := (fresh true).run [.load {edition := ⟨"fr", .ofNat false 1⟩, errors := .empty},
      .register "skulpt" silent, .load .sample]
    (∀ r, g.explain r = .ok (Deck.sample.explain (g.trace r) r.audience r.verbosity)) ∧
    g.registry.names = ["skulpt", "pyodide"] ∧
    g.registry.adapters.get? "skulpt" = some silent ∧
    (fresh true).run [.load .sample, .register "skulpt" silent] = g := by
  intro silent g
  obtain ⟨-, -, hexplain, hnames, hadapters, -, hsame, -⟩ := run_history true
    [.load {edition := ⟨"fr", .ofNat false 1⟩, errors := .empty}, .register "skulpt" silent,
      .load .sample]
  exact ⟨hexplain .sample rfl, hnames.trans (by decide), hadapters "skulpt", hsame _ rfl rfl⟩

end Guide
end ErrorGuide
