import PathAccess.Proofs.Scheme.Coherence

/-!
# Histories of the active scheme

A registry runs commands one after the other, some of which fail.  The scheme that is active after them is the one
that the last successful command returned (`Registry.active_after`), and it was read from a document
(`Registry.after_isValidated`), so it is coherent.  That is also why the only faults are those of the documents: an
active scheme that was read from a document has a declaration, into which sections can be merged
(`Registry.Command.scheme_error`).

A command may bring a scheme of its own.  It is assumed that this one was read from a document as well
(`Registry.Command.BringsValidated`).
-/

namespace PathAccess

theorem Scheme.ofItem_error {document : Item} {origin : Option String} {fault : Fault}
    (h : ofItem document origin = .error fault) : ∃ cause, fault = .scheme cause origin := by
  unfold ofItem at h
  split at h
  · split at h
    · split at h
      · simp at h
      · exact ⟨_, (Except.error.inj h).symm⟩
    · exact ⟨_, (Except.error.inj h).symm⟩
  · exact ⟨_, (Except.error.inj h).symm⟩

namespace Registry

/-! ### Single commands -/

/-- Whether a scheme that a command brings was read from a document. -/
def Command.BringsValidated : Command → Prop
  | .set (.object (.scheme c)) => c.IsValidated
  | _ => True

/-- A scheme that a command makes active was read from a document. -/
theorem Command.scheme_ok {command : Command} {active c : Scheme} (hb : command.BringsValidated)
    (h : command.scheme active = .ok c) : c.IsValidated := by
  unfold scheme at h
  split at h
  · exact Except.ok.inj h ▸ hb
  · exact ⟨_, _, h⟩
  · split at h
    · split at h
      · exact ⟨_, _, h⟩
      · simp at h
    · simp at h
  · exact Except.ok.inj h ▸ Scheme.standard_isValidated

/-- A command fails only because of the document that it brings or that results from it. -/
theorem Command.scheme_error {command : Command} {active : Scheme} {fault : Fault} (ha : active.IsValidated)
    (h : command.scheme active = .error fault) : ∃ cause, fault = .scheme cause none := by
  unfold scheme at h
  split at h
  · simp at h
  · exact Scheme.ofItem_error h
  · split at h
    · split at h
      · exact Scheme.ofItem_error h
      · rename_i hnone
        obtain ⟨d, hd, -⟩ := ha.exists_declaration
        rw [hd] at hnone
        simp at hnone
    · exact ⟨_, (Except.error.inj h).symm⟩
  · simp at h

/-- A command makes active the scheme that it returns, or fails because of a document and changes nothing. -/
theorem run_cases {r : Registry} (command : Command) (hr : r.active.IsValidated) :
    (∃ c, command.scheme r.active = .ok c ∧ (r.run command).1 = ⟨c⟩) ∨
      ∃ cause, command.scheme r.active = .error (.scheme cause none) ∧ (r.run command).1 = r := by
  cases h : command.scheme r.active with
  | ok c => exact Or.inl ⟨c, rfl, by simp [run, h]⟩
  | error fault =>
    obtain ⟨cause, rfl⟩ := Command.scheme_error hr h
    exact Or.inr ⟨cause, rfl, by simp [run, h]⟩

/-- A document that is set makes active what it describes. -/
theorem run_set {document : Item} {c : Scheme} (h : Scheme.ofItem document none = .ok c) (r : Registry) :
    (r.run (.set document)).1 = ⟨c⟩ := by
  obtain ⟨ps, rfl⟩ : ∃ ps, document = .map ps := by
    unfold Scheme.ofItem at h
    split at h
    · exact ⟨_, rfl⟩
    · simp at h
  have hscheme : (Command.set (.map ps)).scheme r.active = .ok c := h
  simp [run, hscheme]

theorem run_isValidated {r : Registry} {command : Command} (hr : r.active.IsValidated)
    (hb : command.BringsValidated) : (r.run command).1.active.IsValidated := by
  rcases run_cases command hr with ⟨c, hc, hrun⟩ | ⟨cause, -, hrun⟩
  · rw [hrun]
    exact Command.scheme_ok hb hc
  · rw [hrun]
    exact hr

/-! ### Histories -/

/-- The registry after some commands. -/
def after (r : Registry) (commands : List Command) : Registry :=
  commands.foldl (fun r command => (r.run command).1) r

/-- What commands return, one after the other. -/
def outcomes (r : Registry) : List Command → List (Except Fault Scheme)
  | [] => []
  | command :: commands => (r.run command).2 :: outcomes (r.run command).1 commands

theorem after_concat (r : Registry) (past : List Command) (command : Command) :
    r.after (past ++ [command]) = ((r.after past).run command).1 := by
  simp [after]

/-- The active scheme is the one that the last successful command returned. -/
theorem active_after (r : Registry) (commands : List Command) :
    (r.after commands).active = ((r.outcomes commands).filterMap Except.toOption).getLastD r.active := by
  induction commands generalizing r with
  | nil => rfl
  | cons command commands ih =>
    have hrest : (r.after (command :: commands)).active = ((r.run command).1.after commands).active := rfl
    rw [hrest, ih, outcomes]
    cases h : (r.run command).2 with
    | ok c =>
      have hc : (Except.ok c : Except Fault Scheme).toOption = some c := rfl
      rw [run_ok h, List.filterMap_cons_some hc, List.getLastD_cons]
    | error fault =>
      have hfault : (Except.error fault : Except Fault Scheme).toOption = none := rfl
      rw [run_error h, List.filterMap_cons_none hfault]

theorem after_isValidated {r : Registry} {commands : List Command} (hr : r.active.IsValidated)
    (hb : ∀ command ∈ commands, command.BringsValidated) : (r.after commands).active.IsValidated := by
  induction commands generalizing r with
  | nil => exact hr
  | cons command commands ih =>
    rw [List.forall_mem_cons] at hb
    exact ih (run_isValidated hr hb.1) hb.2

/-- After any commands the active scheme is coherent and the one that the last successful command returned, and each
command on the way made active the scheme that it returned, or failed because of a document and changed nothing.  A
scheme that was set became active, and so did the one that a document describes; a reset led back to the start. -/
theorem initial_after_coherent (commands : List Command) (hb : ∀ command ∈ commands, command.BringsValidated) :
    (initial.after commands).active =
        ((initial.outcomes commands).filterMap Except.toOption).getLastD Scheme.standard ∧
      (initial.after commands).active.Coherent ∧
      ∀ past command later, commands = past ++ command :: later →
        ((∃ c, command.scheme (initial.after past).active = .ok c ∧ initial.after (past ++ [command]) = ⟨c⟩) ∨
          ∃ cause, command.scheme (initial.after past).active = .error (.scheme cause none) ∧
            initial.after (past ++ [command]) = initial.after past) ∧
        (∀ c, command = .set (.object (.scheme c)) → initial.after (past ++ [command]) = ⟨c⟩) ∧
        (∀ document c, command = .set document → Scheme.ofItem document none = .ok c →
          initial.after (past ++ [command]) = ⟨c⟩) ∧
        (command = .reset → initial.after (past ++ [command]) = initial) := by
  refine ⟨active_after initial commands, (after_isValidated Scheme.standard_isValidated hb).coherent, ?_⟩
  rintro past command later rfl
  rw [List.forall_mem_append] at hb
  rw [after_concat]
  refine ⟨run_cases command (after_isValidated Scheme.standard_isValidated hb.1), ?_, ?_, ?_⟩
  · rintro c rfl
    rfl
  · rintro document c rfl hread
    exact run_set hread _
  · rintro rfl
    rfl

/-- A grant of numbers that no privilege has is kept while aliases are replaced, once in vain. -/
theorem initial_after_coherent_past_failure :
    let aliases (name : String) (tokens : List Item) : OrderedMap String Item :=
      .ofList [("aliases", .map [(.text name, .list tokens)])]
    let commands : List Command :=
      [.set (.object (.scheme .standard)),
       .set (.map [(.text "privileges", .map [(.text "read", .int 1), (.text "write", .int 8)]),
         (.text "grant_privileges", .map [(.text "write", .int 6)])]),
       .configure (aliases "any" [.text "read", .text "list"]),
       .configure (aliases "any" [.text "write", .text "read"]),
       .configure (aliases "read" [.text "write"])]
    (∀ command ∈ commands, command.BringsValidated) ∧
      (initial.outcomes commands).map (·.isOk) = [true, true, false, true, false] ∧
      (initial.after commands).active =
        ⟨[⟨"read", Mask.bit 0, none⟩, ⟨"write", Mask.bit 3, none⟩], .ofList [("any", ⟨9⟩)],
          .ofList [(Mask.bit 3, ⟨6⟩)]⟩ ∧
      (initial.after commands).active.Coherent := by
  intro aliases commands
  have hb : ∀ command ∈ commands, command.BringsValidated := by
    simp [commands, Command.BringsValidated, Scheme.standard_isValidated]
  obtain ⟨-, hcoherent, -⟩ := initial_after_coherent commands hb
  exact ⟨hb, by decide +kernel, by decide +kernel, hcoherent⟩

end Registry

end PathAccess
