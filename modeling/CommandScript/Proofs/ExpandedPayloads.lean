import CommandScript.Proofs.MissingSources

/-!
# Behind the expansion of a payload

A built-in line expands its payload first and then acts on what that has become. The second half
of each is an action of its own here, so that it can be said which text it is given.
-/

namespace CommandScript

open Act
open Event (unlogged)

section

variable (resources : Resources) (settings : Settings) (place : Text)

/-- Opens a source by its reference and includes it. A missing optional source counts as one
without lines. -/
def enterNamed (optional : Bool) (reference : Text) : Act Store Effect := do
  let frame ← (do
    match ← Act.attempt (openFrame resources settings (.text reference)) with
    | .ok frame => return frame
    | .error (.notFound _ _) =>
      if optional then
        Act.debug .builtins ("Optional include '" ++ reference ++ "' is missing; skipping")
        return {}
      else Act.fail (.notFound reference (some place))
    | .error e => Act.fail e)
  debugIfVerbose settings .builtins
    ("include " ++ reference ++ ": " ++ Text.ofNat frame.cursor.lines.length ++ " line(s)")
  return .entered frame

def includeExpanded (expanded : Text) : Act Store Effect :=
  enterNamed resources settings place (Text.splitOptional expanded).1
    (Text.splitOptional expanded).2

def printExpanded (expanded : Text) : Act Store Effect := do
  if expanded = ['-'] then
    Act.emitAll (if settings.replays then [.replayed] else [])
    return .replayRequested
  else
    Act.emit (.wrote (printed expanded))
    return .done

def setExpanded (guarded : Bool) (key value : Text) : Act Store Effect := do
  debugIfVerbose settings .script
    ("setProperty " ++ (if guarded then ['?'] else []) ++ key ++ "=" ++ value)
  let _ ← Store.setGlobal key value guarded
  return .done

end

section

variable {resources : Resources} {settings : Settings} {load : Text → Act Store Table}
variable {place : Text} {s : Store}

theorem executeInclude_eq (reference : Text) :
    executeInclude resources settings place reference =
      expandPayload settings reference >>= includeExpanded resources settings place := rfl

theorem executePrint_eq (expression : Text) :
    executePrint settings expression =
      expandPayload settings expression >>= printExpanded settings := rfl

theorem executeSetProperty_eq (key value : Text) :
    executeSetProperty settings key value =
      expandPayload settings (Text.splitOptional key).2 >>= fun key' =>
        expandPayload settings (Text.trim value) >>= fun value' =>
          setExpanded settings (Text.splitOptional key).1 key' value' := rfl

/-! ### What the second half is given -/

/-- What follows an expansion is given the expanded text, unless the expansion fails. -/
theorem expandPayload_bind {α : Type} (payload : Text) (k : Text → Act Store α) :
    ∃ log, unlogged log = [] ∧ (expandPayload settings payload >>= k) s =
      match settings.expander.expand s.registry payload with
      | .error fault => ⟨.error fault, s, log⟩
      | .ok expanded => (k expanded s).after log := by
  cases result : settings.expander.expand s.registry payload with
  | error fault =>
    refine ⟨[], rfl, ?_⟩
    rw [bind_apply, expandPayload, Store.expand_apply, result]
  | ok expanded =>
    obtain ⟨log, quiet, run⟩ := quietly_expand settings.options.verbose result
    refine ⟨log, quiet, ?_⟩
    rw [bind_apply, expandPayload, run]

/-- Reading a reference with a marker gives the text of a file or of an object. -/
theorem read_marked {marker : Char} (marked : marker = '@' ∨ marker = '!') {name : Text}
    {found : Text × Text} (h : (Source.text (marker :: name)).read resources = .ok found) :
    (marker = '@' ∧ resources.files.read (Path.ofText name) (marker :: name) = .ok found.2) ∨
      (marker = '!' ∧ resources.objects.find? name = some found.2) := by
  rcases marked with rfl | rfl
  · simp only [Source.read] at h
    cases stored : resources.files.read (Path.ofText name) ('@' :: name) with
    | error e => simp [stored, Except.map] at h
    | ok raw =>
      simp only [stored, Except.map, Except.ok.injEq] at h
      subst h
      exact .inl ⟨rfl, rfl⟩
  · simp only [Source.read] at h
    cases stored : resources.objects.find? name with
    | none => simp [stored] at h
    | some raw =>
      simp only [stored, Except.ok.injEq] at h
      subst h
      exact .inr ⟨rfl, rfl⟩

/-- What including a source by its reference comes to. -/
theorem result_enterNamed (optional : Bool) (reference : Text) :
    (enterNamed resources settings place optional reference s).result =
      match (Source.text reference).read resources with
      | .ok (name, raw) => .ok (.entered { cursor := .opened name (settings.linesOf raw) })
      | .error (.notFound _ _) =>
        if optional then .ok (.entered {}) else .error (.notFound reference (some place))
      | .error e => .error e := by
  have logged (channel : LogChannel) (message : Text) :
      debugIfVerbose settings channel message s =
        ⟨.ok (), s,
          if settings.options.verbose then [.logged ⟨.debug, channel, message⟩] else []⟩ := by
    cases verbose : settings.options.verbose <;> simp [debugIfVerbose, verbose]
  simp only [enterNamed, bind_apply, attempt_apply, openFrame_apply]
  cases (Source.text reference).read resources with
  | ok found => simp [Except.map, logged]
  | error e => cases e <;> cases optional <;> simp [Except.map, bind_apply, logged]

/-- A guarded write keeps the value that is there. -/
theorem find?_setExpanded (guarded : Bool) (key value : Text) :
    (setExpanded settings guarded key value s).result = .ok .done ∧
      ((setExpanded settings guarded key value s).state.registry.table globalsLabel).find? key =
        some (if guarded then ((s.registry.table globalsLabel).find? key).getD value
          else value) := by
  have written (r : Registry) : ((r.put globalsLabel key value).table globalsLabel).find? key =
      some value := by
    rw [Registry.put, Registry.table_insert, if_pos rfl, Ordered.find?_insert, if_pos rfl]
  have same : ((s.registry.ensure globalsLabel).table globalsLabel).find? key =
      (s.registry.table globalsLabel).find? key := by rw [Registry.table_ensure]
  obtain ⟨log, -, logged⟩ : Quietly (debugIfVerbose settings .script
      ("setProperty " ++ (if guarded then ['?'] else []) ++ key ++ "=" ++ value)) s () s :=
    .onlyIf_debug ..
  simp only [setExpanded, Store.setGlobal, bind_apply, logged, get_apply, same]
  cases found : (s.registry.table globalsLabel).find? key with
  | none => cases guarded <;> simp [bind_apply, written]
  | some old => cases guarded <;> simp [bind_apply, written, same, found]

end

end CommandScript
