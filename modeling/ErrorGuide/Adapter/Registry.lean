import ErrorGuide.Adapter.Builtin
import ErrorGuide.Data.OrderedMap
import ErrorGuide.Text.Join
import ErrorGuide.Text.Quoted

/-! Registries of adapters. Adapters are tried in the order in which their names were first
registered. -/

namespace ErrorGuide

abbrev Adapter := String → Option String → Option Trace

inductive ErrorInput where
  | text (raw : String)
  | trace (t : Trace)
deriving Repr, DecidableEq

structure Registry where
  adapters : OrderedMap Adapter

namespace Registry

def empty : Registry := ⟨.empty⟩

def register (r : Registry) (name : String) (a : Adapter) : Registry :=
  ⟨r.adapters.insert name a⟩

def builtin : Registry :=
  (empty.register "skulpt" Family.skulpt.extract).register "pyodide" Family.pyodide.extract

def names (r : Registry) : List String := r.adapters.keys

def extract (r : Registry) (raw : String) (code : Option String) : Trace :=
  (r.adapters.entries.findSome? fun (_, adapter) => adapter raw code).getD (Trace.generic raw)

def coerce (r : Registry) (input : ErrorInput) (code : Option String) : Trace :=
  match input with
  | .trace t => t
  | .text raw => r.extract raw code

def describe (r : Registry) : String :=
  "AdapterRegistry \x7b adapters: [" ++ Text.join ", " (r.names.map Text.quoted) ++ "] \x7d"

end Registry
end ErrorGuide
