import CommandScript.Act
import CommandScript.Expansion
import CommandScript.Line.Basic
import CommandScript.Source

/-!
# The shared store

Scanners of one family share a registry and, where they read properties, the
table under construction. The actions here are the only ones that change either.
-/

namespace CommandScript

/-- What scanners share: the registry, and the table that properties records
write into. -/
structure Store where
  registry : Registry := ∅
  target : Table := ∅

namespace Store

/-- Writes one script variable. A guarded write keeps a value that is there.
Answers whether the value was written. -/
def setGlobal (key value : Text) (guarded : Bool) : Act Store Bool := do
  let s ← Act.get
  let r := s.registry.ensure globalsLabel
  match (r.table globalsLabel).find? key with
  | none =>
    Act.modify fun s => { s with registry := r.put globalsLabel key value }
    return true
  | some old =>
    if guarded then
      Act.modify fun s => { s with registry := r }
      Act.debug .registry ("Keeping existing value for '" ++ key ++ "' (guarded setProperty)")
      return false
    else
      Act.log .warning .registry
        ("setProperty is overriding '" ++ key ++ "': '" ++ old ++ "' -> '" ++ value ++ "'")
      Act.modify fun s => { s with registry := r.put globalsLabel key value }
      return true

def merge (label : Text) (values : Table) : Act Store Table := do
  let s ← Act.get
  if s.registry.contains label then
    Act.debug .registry
      ("Merging " ++ Text.ofNat values.size ++ " entries into existing table '" ++ label ++ "'")
  Act.modify fun s => { s with registry := s.registry.merge label values }
  let s ← Act.get
  return s.registry.table label

def expand (expander : Expander) (verbose : Bool) (t : Text) : Act Store Text := do
  let s ← Act.get
  let result ← Act.ofExcept (expander.expand s.registry t)
  Act.onlyIf (verbose && result != t)
    (Act.debug .expansion ("evaluate(): [" ++ t ++ "] -> [" ++ result ++ "]"))
  return result

/-- Expanding changes nothing; it fails where the expander does, and else only logs. -/
theorem expand_apply (expander : Expander) (verbose : Bool) (t : Text) (s : Store) :
    expand expander verbose t s =
      match expander.expand s.registry t with
      | .error e => ⟨.error e, s, []⟩
      | .ok u => ⟨.ok u, s,
          if verbose && u != t then
            [.logged ⟨.debug, .expansion, "evaluate(): [" ++ t ++ "] -> [" ++ u ++ "]"⟩]
          else []⟩ := by
  cases h : expander.expand s.registry t with
  | error e => simp [expand, Act.bind_apply, h]
  | ok u => cases hv : verbose && u != t <;> simp [expand, Act.bind_apply, h, hv]

end Store

/-- The log records of a kept record and of a whole opened source. -/
def ingestionLog (name : Text) (kept : List (Text × Line)) : List Event :=
  kept.map (fun (record, line) => .logged ⟨.debug, .ingestion,
    "line# " ++ Text.ofNat line.number ++ ": AS-IS=[" ++ record ++
      "] CLEANED=[" ++ line.text ++ "]"⟩)
  ++ [.logged ⟨.debug, .ingestion,
    "Opened [" ++ name ++ "]: " ++ Text.ofNat kept.length ++ " command line(s)"⟩]

/-- Reads a source and ingests it, where any rule says how a raw line falls into records:
its name and its lines. -/
def openLinesBy {σ : Type} (resources : Resources) (source : Source) (how : Cleaning)
    (split : Text → List Text) (verbose : Bool) : Act σ (Text × List Line) := do
  Act.emitAll (source.path?.toList.map .sought)
  let (name, raw) ← Act.ofExcept (source.read resources)
  let kept := Line.keptBy how split raw
  Act.emitAll (if verbose then ingestionLog name kept else [])
  return (name, kept.map (·.2))

/-- Reads a source and ingests it: its name and its lines. -/
def openLines {σ : Type} (resources : Resources) (source : Source) (how : Cleaning)
    (separator : Option Text) (verbose : Bool) : Act σ (Text × List Line) :=
  openLinesBy resources source how (Line.records separator) verbose

end CommandScript
