import ErrorGuide.Adapter.Registry
import ErrorGuide.Explanation.Composition

/-! Guides explain errors: a deck, once one is loaded, and the adapters that read error texts. -/

namespace ErrorGuide

/-- The offending line is taken from the source, if the trace has a line number but no line. -/
def Trace.withCode (t : Trace) (code : Option String) : Trace :=
  match t.codeLine, code, t.line with
  | none, some code, some line => { t with codeLine := Source.codeLine code line }
  | _, _, _ => t

structure Request where
  input : ErrorInput
  code : Option String := none
  audience : Audience := .beginner
  verbosity : Verbosity := .standard
deriving Repr, DecidableEq

structure Guide where
  deck : Option Deck := none
  registry : Registry := .builtin

namespace Guide

inductive Fault where
  | deckNotLoaded
deriving Repr, DecidableEq

def Fault.message : Fault → String
  | .deckNotLoaded => "copy deck not loaded"

def load (g : Guide) (d : Deck) : Guide := { g with deck := some d }

def register (g : Guide) (name : String) (a : Adapter) : Guide :=
  { g with registry := g.registry.register name a }

def trace (g : Guide) (r : Request) : Trace := (g.registry.coerce r.input r.code).withCode r.code

def explain (g : Guide) (r : Request) : Except Fault Explanation :=
  match g.deck with
  | none => .error .deckNotLoaded
  | some d => .ok (d.explain (g.trace r) r.audience r.verbosity)

end Guide
end ErrorGuide
