import PathAccess.CommandLine.Run
import PathAccess.Proofs.CommandLine.Arguments
import PathAccess.Proofs.Holdings.Coverage
import PathAccess.Proofs.Holdings.Monotonicity
import PathAccess.Proofs.Permission.ReadingFaults
import PathAccess.Proofs.Scheme.Validation

/-!
# Verdicts of the command line

The commands that ask a question read their texts one after the other and stop at the first that is no permission.
If all are read, there is an answer, and the command ends with it.  If not, it ends with the status for misuse, so long
as the first text that is not read is rejected.  It is not if it has a false numeral; then the command fails
(`Permission.HasFalseNumeral`).
-/

namespace PathAccess.CommandLine

/-- A question to the command line, with the texts of all permissions. -/
inductive Question where
  | allows (granted requested : List String)
  | mayDelegate (isGrant : Bool) (grantor grantee : List String) (permission : String)

/-- Every text is read as the permission at its place. -/
def AllRead (c : Scheme) : List String → List Permission → Prop :=
  List.Forall₂ fun text p => Permission.parseText c text = .ok p

/-- The first of the texts that is no permission. -/
def FirstUnread (c : Scheme) (texts : List String) (text : String) : Prop :=
  ∃ before after, texts = before ++ text :: after ∧ (∀ t ∈ before, ∃ p, Permission.parseText c t = .ok p) ∧
    ∀ p, Permission.parseText c text ≠ .ok p

namespace Question

/-- The texts in the order in which they are read. -/
def texts : Question → List String
  | allows granted requested => granted ++ requested
  | mayDelegate _ grantor grantee permission => grantor ++ permission :: grantee

/-- Whether enough is given to ask. -/
def IsComplete : Question → Prop
  | allows granted requested => granted ≠ [] ∧ requested ≠ []
  | mayDelegate _ grantor _ _ => grantor ≠ []

/-- Whether an invocation asks the question. -/
def IsAsked : Question → Invocation → Prop
  | allows granted requested, i => i.verb = .allows ∧ i.values .granted = granted ∧ i.operands = requested
  | mayDelegate isGrant grantor grantee permission, i =>
    i.verb = (if isGrant then .mayGrant else .mayRevoke) ∧ i.values .grantor = grantor ∧
      i.values .grantee = grantee ∧ i.operands = [permission]

/-- What the collection of the texts that are held answers about the permissions that the other texts are read as. -/
inductive Answers (c : Scheme) : Question → Bool → Prop
  | allows {granted requested : List String} {h : Holdings} {ps : List Permission} {answer : Bool} :
    Holdings.ofItems (textItems granted) (some c) c = .ok h → AllRead c requested ps →
      h.allows (ps.map Item.ofPermission) c = .ok answer → Answers c (.allows granted requested) answer
  | mayGrant {grantor grantee : List String} {permission : String} {h : Holdings} {p : Permission}
    {ps : List Permission} {answer : Bool} :
    Holdings.ofItems (textItems grantor) (some c) c = .ok h → Permission.parseText c permission = .ok p →
      AllRead c grantee ps → h.mayGrant (.ofPermission p) (.list (ps.map Item.ofPermission)) c = .ok answer →
      Answers c (.mayDelegate true grantor grantee permission) answer
  | mayRevoke {grantor grantee : List String} {permission : String} {h : Holdings} {p : Permission}
    {ps : List Permission} {answer : Bool} :
    Holdings.ofItems (textItems grantor) (some c) c = .ok h → Permission.parseText c permission = .ok p →
      AllRead c grantee ps → h.mayRevoke (.ofPermission p) (.list (ps.map Item.ofPermission)) c = .ok answer →
      Answers c (.mayDelegate false grantor grantee permission) answer

/-- The computation that decides the question. -/
def ask (q : Question) (c : Scheme) : Except Fault Bool :=
  match q with
  | allows granted requested => CommandLine.allows granted requested c c
  | mayDelegate isGrant grantor grantee permission => CommandLine.mayDelegate isGrant grantor grantee permission c c

def title : Question → String
  | allows .. => "Authorization Check"
  | mayDelegate isGrant .. => if isGrant then "Grant Check" else "Revoke Check"

end Question

/-! ### Texts read one after the other -/

variable {c : Scheme} {texts : List String} {text : String}

theorem firstUnread_cons {t : String} : FirstUnread c (t :: texts) text ↔
    (text = t ∧ ∀ p, Permission.parseText c t ≠ .ok p) ∨
      (∃ p, Permission.parseText c t = .ok p) ∧ FirstUnread c texts text := by
  constructor
  · rintro ⟨before, after, heq, hbefore, htext⟩
    cases before with
    | nil =>
      obtain ⟨rfl, rfl⟩ := List.cons.inj heq
      exact Or.inl ⟨rfl, htext⟩
    | cons t' before =>
      obtain ⟨rfl, rfl⟩ := List.cons.inj heq
      rw [List.forall_mem_cons] at hbefore
      exact Or.inr ⟨hbefore.1, before, after, rfl, hbefore.2, htext⟩
  · rintro (⟨rfl, htext⟩ | ⟨hread, before, after, rfl, hbefore, htext⟩)
    · exact ⟨[], texts, rfl, by simp, htext⟩
    · exact ⟨t :: before, after, rfl, List.forall_mem_cons.2 ⟨hread, hbefore⟩, htext⟩

theorem exists_allRead (h : ∀ t ∈ texts, ∃ p, Permission.parseText c t = .ok p) : ∃ ps, AllRead c texts ps :=
  Ambient.exists_values h

theorem AllRead.wellFormed {ps : List Permission} (h : AllRead c texts ps) : ∀ p ∈ ps, p.WellFormed := by
  induction h with
  | nil => simp
  | cons ht _ ih =>
    rw [List.forall_mem_cons]
    exact ⟨Permission.parseText_wellFormed ht, ih⟩

/-- Either all texts are read or there is a first that is not. -/
theorem read_or_firstUnread (c : Scheme) (texts : List String) :
    (∀ t ∈ texts, ∃ p, Permission.parseText c t = .ok p) ∨ ∃ text, FirstUnread c texts text := by
  refine (Ambient.all_ok_or_first (Permission.parseText c) texts).imp_right ?_
  rintro ⟨before, text, after, e, hsplit, hbefore, htext⟩
  exact ⟨text, before, after, hsplit, hbefore, by simp [htext]⟩

/-- The first text that is not read is among the first texts, or these are all read. -/
theorem firstUnread_append {more : List String} (h : FirstUnread c (texts ++ more) text) :
    FirstUnread c texts text ∨ (∃ ps, AllRead c texts ps) ∧ FirstUnread c more text := by
  induction texts with
  | nil => exact Or.inr ⟨⟨[], .nil⟩, h⟩
  | cons t texts ih =>
    rcases firstUnread_cons.1 h with ht | ⟨⟨p, hp⟩, hrest⟩
    · exact Or.inl (firstUnread_cons.2 (Or.inl ht))
    · rcases ih hrest with htext | ⟨⟨ps, hps⟩, hmore⟩
      · exact Or.inl (firstUnread_cons.2 (Or.inr ⟨⟨p, hp⟩, htext⟩))
      · exact Or.inr ⟨⟨p :: ps, .cons hp hps⟩, hmore⟩

theorem FirstUnread.exists_fault (h : FirstUnread c texts text) : ∃ e, Permission.parseText c text = .error e := by
  obtain ⟨-, -, -, -, htext⟩ := h
  cases hp : Permission.parseText c text with
  | error e => exact ⟨e, rfl⟩
  | ok p => exact absurd hp (htext p)

/-! ### Reading lists of texts -/

/-- A text is collected as it is read. -/
theorem collect_text (c : Scheme) (text : String) :
    Holdings.collect (some c) (.text text) c = Permission.parseText c text := by
  cases hread : Permission.parseText c text with
  | error e => exact Ambient.bind_of_error (show Permission.coerce (.text text) (some c) c = .error e from hread) _
  | ok p =>
    have hcoerce : Permission.coerce (.text text) (some c) c = .ok p := hread
    exact (Ambient.bind_of_ok hcoerce _).trans (Permission.clone_eq (Permission.parseText_wellFormed hread))

theorem ofItems_of_allRead {ps : List Permission} (h : AllRead c texts ps) :
    Holdings.ofItems (textItems texts) (some c) c = .ok ⟨ps, some c⟩ := by
  apply Holdings.ofItems_of_collected
  rw [textItems, Item.flatten_map_text, List.forall₂_map_left_iff]
  exact h.imp fun t p hp => (collect_text c t).trans hp

theorem ofItems_of_firstUnread {e : Fault} (h : FirstUnread c texts text)
    (he : Permission.parseText c text = .error e) : Holdings.ofItems (textItems texts) (some c) c = .error e := by
  obtain ⟨before, after, rfl, hbefore, -⟩ := h
  have hitems : Item.flatten (textItems (before ++ text :: after)) =
      textItems before ++ .text text :: textItems after := by
    rw [textItems, Item.flatten_map_text, List.map_append, List.map_cons, textItems, textItems]
  refine Holdings.ofItems_of_fault hitems ?_ ((collect_text c text).trans he)
  rw [textItems, List.forall_mem_map]
  exact fun t ht => (hbefore t ht).imp fun p hp => (collect_text c t).trans hp

theorem readAll_of_allRead {ps : List Permission} (h : AllRead c texts ps) :
    readAll texts c = .ok (ps.map Item.ofPermission) := by
  rw [readAll, ← Ambient.mapM_ofExcept c]
  apply Ambient.mapM_of_ok
  rw [List.forall₂_map_right_iff]
  refine h.imp fun t p hp => ?_
  rw [Ambient.ofExcept, hp]
  rfl

theorem readAll_of_firstUnread {e : Fault} (h : FirstUnread c texts text) (he : Permission.parseText c text = .error e) :
    readAll texts c = .error e := by
  obtain ⟨before, after, rfl, hbefore, -⟩ := h
  rw [readAll, ← Ambient.mapM_ofExcept c]
  refine Ambient.mapM_of_error (fun t ht => ?_) (by rw [Ambient.ofExcept, he]; rfl)
  obtain ⟨p, hp⟩ := hbefore t ht
  exact ⟨Item.ofPermission p, by rw [Ambient.ofExcept, hp]; rfl⟩

/-! ### Answers and faults -/

namespace Question

variable {q : Question}

theorem ask_of_answers {answer : Bool} (h : q.Answers c answer) : q.ask c = .ok answer := by
  cases h with
  | allows hheld hread hanswer =>
    rw [ask, CommandLine.allows, Ambient.bind_of_ok hheld, Ambient.bind_ofExcept_of_ok (readAll_of_allRead hread)]
    exact hanswer
  | mayGrant hheld hnew hread hanswer =>
    rw [ask, CommandLine.mayDelegate, Ambient.bind_of_ok hheld, Ambient.bind_ofExcept_of_ok hnew,
      Ambient.bind_ofExcept_of_ok (readAll_of_allRead hread)]
    exact hanswer
  | mayRevoke hheld hnew hread hanswer =>
    rw [ask, CommandLine.mayDelegate, Ambient.bind_of_ok hheld, Ambient.bind_ofExcept_of_ok hnew,
      Ambient.bind_ofExcept_of_ok (readAll_of_allRead hread)]
    exact hanswer

theorem exists_answers (h : ∀ t ∈ q.texts, ∃ p, Permission.parseText c t = .ok p) : ∃ answer, q.Answers c answer := by
  cases q with
  | allows granted requested =>
    simp only [texts, List.forall_mem_append] at h
    obtain ⟨held, hheld⟩ := exists_allRead h.1
    obtain ⟨ps, hps⟩ := exists_allRead h.2
    exact ⟨_, .allows (ofItems_of_allRead hheld) hps (Holdings.allows_map_ofPermission hps.wellFormed _ c)⟩
  | mayDelegate isGrant grantor grantee permission =>
    simp only [texts, List.forall_mem_append, List.forall_mem_cons] at h
    obtain ⟨hgrantor, ⟨new, hnew⟩, hgrantee⟩ := h
    obtain ⟨held, hheld⟩ := exists_allRead hgrantor
    obtain ⟨rivals, hrivals⟩ := exists_allRead hgrantee
    have hof := ofItems_of_allRead hheld
    have hanswer : (Holdings.mk held (some c)).mayDelegate (Item.ofPermission new)
        (.list (rivals.map Item.ofPermission)) c = .ok _ :=
      Holdings.mayDelegate_eq _ _ (Permission.parseText_wellFormed hnew)
    cases isGrant with
    | true => exact ⟨_, .mayGrant hof hnew hrivals hanswer⟩
    | false => exact ⟨_, .mayRevoke hof hnew hrivals hanswer⟩

/-- The first text that is not read decides. -/
theorem ask_of_firstUnread {e : Fault} (h : FirstUnread c q.texts text) (he : Permission.parseText c text = .error e) :
    q.ask c = .error e := by
  cases q with
  | allows granted requested =>
    rcases firstUnread_append h with htext | ⟨⟨held, hheld⟩, htext⟩
    · exact Ambient.bind_of_error (ofItems_of_firstUnread htext he) _
    · rw [ask, CommandLine.allows, Ambient.bind_of_ok (ofItems_of_allRead hheld)]
      exact Ambient.bind_ofExcept_of_error (readAll_of_firstUnread htext he) _
  | mayDelegate isGrant grantor grantee permission =>
    rcases firstUnread_append h with htext | ⟨⟨held, hheld⟩, htext⟩
    · exact Ambient.bind_of_error (ofItems_of_firstUnread htext he) _
    · rw [ask, CommandLine.mayDelegate, Ambient.bind_of_ok (ofItems_of_allRead hheld)]
      rcases firstUnread_cons.1 htext with ⟨rfl, -⟩ | ⟨⟨new, hnew⟩, htext⟩
      · exact Ambient.bind_ofExcept_of_error he _
      · rw [Ambient.bind_ofExcept_of_ok hnew]
        exact Ambient.bind_ofExcept_of_error (readAll_of_firstUnread htext he) _

theorem ask_eq_error_iff {e : Fault} :
    q.ask c = .error e ↔ ∃ text, FirstUnread c q.texts text ∧ Permission.parseText c text = .error e := by
  constructor
  · intro h
    rcases read_or_firstUnread c q.texts with hread | ⟨text, htext⟩
    · obtain ⟨answer, hanswer⟩ := exists_answers hread
      rw [ask_of_answers hanswer] at h
      simp at h
    · obtain ⟨e', he⟩ := htext.exists_fault
      obtain rfl := Except.error.inj ((ask_of_firstUnread htext he).symm.trans h)
      exact ⟨text, htext, he⟩
  · rintro ⟨text, htext, he⟩
    exact ask_of_firstUnread htext he

theorem answers_iff {answer : Bool} : q.Answers c answer ↔ q.ask c = .ok answer := by
  refine ⟨ask_of_answers, fun h => ?_⟩
  rcases read_or_firstUnread c q.texts with hread | ⟨text, htext⟩
  · obtain ⟨answer', hanswer⟩ := exists_answers hread
    obtain rfl := Except.ok.inj ((ask_of_answers hanswer).symm.trans h)
    exact hanswer
  · obtain ⟨e, he⟩ := htext.exists_fault
    rw [ask_of_firstUnread htext he] at h
    simp at h

/-- A question fails if the first text that is not read has a false numeral. -/
theorem fails_iff : (∃ text, FirstUnread c q.texts text ∧ Permission.HasFalseNumeral c text) ↔
    q.ask c = .error .notANumber := by
  simp only [ask_eq_error_iff, Permission.parseText_eq_notANumber_iff]

/-- A question is rejected if the first text that is not read has no false numeral. -/
theorem isRejected_iff : (∃ text, FirstUnread c q.texts text ∧ ¬ Permission.HasFalseNumeral c text) ↔
    ∃ e, q.ask c = .error e ∧ e.isRejection = true := by
  simp only [ask_eq_error_iff, ← Permission.parseText_eq_notANumber_iff]
  constructor
  · rintro ⟨text, htext, hnumeral⟩
    obtain ⟨e, he⟩ := htext.exists_fault
    refine ⟨e, ⟨text, htext, he⟩, ?_⟩
    exact (Permission.parseText_eq_error he).resolve_right fun h => hnumeral (h.1 ▸ he)
  · rintro ⟨e, ⟨text, htext, he⟩, hrejected⟩
    refine ⟨text, htext, fun hnumeral => ?_⟩
    obtain rfl := Except.error.inj (he.symm.trans hnumeral)
    simp [Fault.isRejection] at hrejected

end Question

/-! ### Running a question -/

variable {q : Question} {i : Invocation} {args : List String}

theorem verb?_name (v : Verb) (args : List String) : verb? (v.name :: args) = some (v, args) := by
  cases v <;> rfl

theorem values_ne_nil {f : Flag} : i.values f ≠ [] ↔ i.options.any (·.1 = f) = true := by
  simp [Invocation.values]

/-- Options and operands are accepted if the question is complete. -/
theorem invocation?_of_isAsked (hargs : Arranged i.verb i.options i.operands args) (hq : q.IsAsked i) :
    (q.IsComplete → invocation? i.verb args = some i) ∧ (¬ q.IsComplete → invocation? i.verb args = none) := by
  have hinvocation : invocation? i.verb args =
      if i.verb.takes i.operands.length && i.verb.needed.all (fun f => i.options.any (·.1 = f)) then some i
      else none := by
    rw [invocation?, split_of_arranged hargs]
    rfl
  have hcomplete : q.IsComplete ↔
      (i.verb.takes i.operands.length && i.verb.needed.all (fun f => i.options.any (·.1 = f))) = true := by
    cases q with
    | allows granted requested =>
      obtain ⟨hverb, rfl, rfl⟩ := hq
      simp only [Question.IsComplete, values_ne_nil, hverb, Verb.takes, Verb.needed]
      simp [List.length_pos_iff, and_comm]
    | mayDelegate isGrant grantor grantee permission =>
      obtain ⟨hverb, rfl, rfl, hoperands⟩ := hq
      simp only [Question.IsComplete, values_ne_nil, hverb, hoperands]
      cases isGrant <;> simp [Verb.takes, Verb.needed]
  rw [hinvocation]
  exact ⟨fun h => if_pos (hcomplete.1 h), fun h => if_neg (mt hcomplete.2 h)⟩

theorem run_of_isAsked (find : String → FileTree.Target) (c : Scheme)
    (hargs : Arranged i.verb i.options i.operands args) (hconfig : i.configPath = none) (hq : q.IsAsked i) :
    (¬ q.IsComplete → run find c (i.verb.name :: args) = misuse (some i.verb)) ∧
    (q.IsComplete → run find c (i.verb.name :: args) =
      match q.ask c with
      | .ok answer => verdict q.title answer
      | .error e => rejected i.verb e) := by
  obtain ⟨haccepted, hrefused⟩ := invocation?_of_isAsked hargs hq
  refine ⟨fun hq' => ?_, fun hq' => ?_⟩
  · rw [run, verb?_name]
    simp only [hrefused hq']
  · rw [run, verb?_name]
    simp only [haccepted hq', hconfig]
    cases q with
    | allows granted requested =>
      obtain ⟨hverb, rfl, rfl⟩ := hq
      simp only [Invocation.run, hverb]
      rfl
    | mayDelegate isGrant grantor grantee permission =>
      obtain ⟨hverb, rfl, rfl, hoperands⟩ := hq
      cases isGrant <;> simp only [Invocation.run, hverb, hoperands] <;> rfl

/-- **Verdicts.**  A complete question ends with 0 if the answer is yes and with 1 if it is no.  It ends with 2 if there
is a text that is no permission, so long as the first such text has no false numeral; if it has one, the command fails
with 1.  An incomplete question ends with 2. -/
theorem status_of_isAsked (find : String → FileTree.Target) (c : Scheme)
    (hargs : Arranged i.verb i.options i.operands args) (hconfig : i.configPath = none) (hq : q.IsAsked i) :
    let outcome := run find c (i.verb.name :: args)
    (outcome.status = 2 ↔
      ¬ q.IsComplete ∨ ∃ text, FirstUnread c q.texts text ∧ ¬ Permission.HasFalseNumeral c text) ∧
    (outcome.status = 0 ↔ q.IsComplete ∧ q.Answers c true) ∧
    (outcome.status = 1 ↔ q.IsComplete ∧
      (q.Answers c false ∨ ∃ text, FirstUnread c q.texts text ∧ Permission.HasFalseNumeral c text)) ∧
    (∀ e, outcome.failure = some e ↔
      q.IsComplete ∧ e = .notANumber ∧ ∃ text, FirstUnread c q.texts text ∧ Permission.HasFalseNumeral c text) := by
  obtain ⟨hmisuse, hrun⟩ := run_of_isAsked find c hargs hconfig hq
  by_cases hcomplete : q.IsComplete
  · simp only [Question.answers_iff, Question.fails_iff, Question.isRejected_iff, hrun hcomplete]
    cases hask : q.ask c with
    | ok answer => cases answer <;> simp [verdict, hcomplete]
    | error e =>
      -- a false numeral is the only fault that is no rejection
      obtain ⟨text, -, he⟩ := Question.ask_eq_error_iff.1 hask
      rcases Permission.parseText_eq_error he with hrejected | ⟨rfl, -⟩
      · have hne : e ≠ .notANumber := by
          rintro rfl
          simp [Fault.isRejection] at hrejected
        simp [rejected, hrejected, misuse, hne, hcomplete]
      · have hfailed : rejected i.verb .notANumber = failed i.verb .notANumber := rfl
        have hsym : ∀ e, Fault.notANumber = e ↔ e = .notANumber := fun _ => eq_comm
        simp [hfailed, failed, Fault.isRejection, hcomplete, hsym]
  · rw [hmisuse hcomplete]
    simp [hcomplete, misuse]

/-- A manager of articles may give out reading, also to somebody who reads already; the options stand on both sides of
the operand and are written in different ways.  A request with an unknown privilege is misuse. -/
theorem status_of_isAsked_for_manager :
    let find : String → FileTree.Target := fun _ => .nothing
    (run find .standard ["may-grant", "-g/articles/*:rm", "/articles/7:r", "--grantee=/articles/7:r"]).status = 0 ∧
      (run find .standard ["allows", "/a:r", "/a:x", "--granted", "/a:r"]).status = 2 := by
  intro find
  constructor
  · let i : Invocation := ⟨.mayGrant, [(.grantor, "/articles/*:rm"), (.grantee, "/articles/7:r")], ["/articles/7:r"]⟩
    have hargs : Arranged i.verb i.options i.operands
        ["-g/articles/*:rm", "/articles/7:r", "--grantee=/articles/7:r"] :=
      .option (by decide) (.shortJoined (by decide)) (.operand (by decide) (.option (by decide) .longJoined .nil))
    let q : Question := .mayDelegate true ["/articles/*:rm"] ["/articles/7:r"] "/articles/7:r"
    have hq : q.IsAsked i := ⟨rfl, rfl, rfl, rfl⟩
    have hheld : Permission.parseText .standard "/articles/*:rm" = .ok ⟨"/articles/*", none, ⟨34, .standard⟩⟩ :=
      eq_ok_of_toOption (by decide +kernel)
    have hreader : Permission.parseText .standard "/articles/7:r" = .ok ⟨"/articles/7", none, ⟨2, .standard⟩⟩ :=
      eq_ok_of_toOption (by decide +kernel)
    have hanswer : q.Answers .standard true :=
      .mayGrant (ofItems_of_allRead (.cons hheld .nil)) hreader (.cons hreader .nil)
        (eq_ok_of_toOption (by decide +kernel))
    exact (status_of_isAsked find .standard hargs rfl hq).2.1.2 ⟨by simp [q, Question.IsComplete], hanswer⟩
  · let i : Invocation := ⟨.allows, [(.granted, "/a:r")], ["/a:r", "/a:x"]⟩
    have hargs : Arranged i.verb i.options i.operands ["/a:r", "/a:x", "--granted", "/a:r"] :=
      .operand (by decide) (.operand (by decide) (.option (by decide) .long .nil))
    let q : Question := .allows ["/a:r"] ["/a:r", "/a:x"]
    have hq : q.IsAsked i := ⟨rfl, rfl, rfl⟩
    have hread : Permission.parseText .standard "/a:r" = .ok ⟨"/a", none, ⟨2, .standard⟩⟩ :=
      eq_ok_of_toOption (by decide +kernel)
    have hunread : Permission.parseText .standard "/a:x" = .error (.unknownPrivilege "x") := by rfl
    have hfirst : FirstUnread .standard q.texts "/a:x" :=
      ⟨["/a:r", "/a:r"], [], rfl, by simp [hread], by simp [hunread]⟩
    have hnumeral : ¬ Permission.HasFalseNumeral .standard "/a:x" := by
      rw [← Permission.parseText_eq_notANumber_iff, hunread]
      simp
    exact (status_of_isAsked find .standard hargs rfl hq).1.2 (Or.inr ⟨_, hfirst, hnumeral⟩)

/-- A superscript two is a digit, but no number: the command fails, and it should have been misuse. -/
theorem not_status_of_superscript :
    let find : String → FileTree.Target := fun _ => .nothing
    let outcome := run find .standard ["allows", "-g", "/a:r", "/a:²"]
    (∀ p, Permission.parseText .standard "/a:²" ≠ .ok p) ∧ outcome.status = 1 ∧ outcome.failure = some .notANumber := by
  intro find outcome
  have hunread : Permission.parseText .standard "/a:²" = .error .notANumber := by rfl
  exact ⟨by simp [hunread], by rfl, by rfl⟩

end PathAccess.CommandLine
