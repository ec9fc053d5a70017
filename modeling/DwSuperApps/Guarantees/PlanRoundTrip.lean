import DwSuperApps.Guarantees.BlueprintRoutes
import DwSuperApps.Source.PlanStore

/-!
# A plan and its payload

`from_dict` of what `to_dict` wrote: every edge, step and plan of typed values comes
back as it was, since a constructor changes nothing that an earlier constructor left.
Entries that were given as mappings come back as values of their class, with every
member the class knows and no other, so that a plan with such an entry is not the
plan that is read, and where a member was missing its digest is not the one that was
written beside it.
-/
namespace DwSuperApps.Guarantees.PlanRoundTrip

open DwSuperApps.Lib DwSuperApps.Lib.Checked
open DwSuperApps.Source.Plans
open DwSuperApps.Source.Blueprints
open DwSuperApps.Guarantees.BlueprintRoutes (compileBlueprint_ok)

/-! ## Edges and steps -/

theorem requireText_self (t : RequiredText) (field : String) :
    requireText t.value field = .ok t := by
  unfold requireText
  rw [dif_pos t.solid]

theorem ofText_value (kind : EdgeKind) : EdgeKind.ofText kind.value = .ok kind := by
  cases kind <;> rfl

theorem edge_read (e : PlanEdge) : PlanEdge.fromDict e.toPayload = .ok e := by
  have source : PlanEdge.optionalText ((e.sourceStepId.map fun text => some text.value).getD none)
      "edge.source_step_id" = .ok e.sourceStepId := by
    cases e.sourceStepId with
    | none => rfl
    | some text =>
      change (requireText text.value _).map some = _
      rw [requireText_self]
      rfl
  unfold PlanEdge.fromDict PlanEdge.toPayload
  simp only [memberText, ok_bind, requireText_self, Option.getD_some, ofText_value, source]
  rfl

/-- An edge of a step is bound to it. -/
theorem bindEdge_self {stepId : RequiredText} {outcome : String} {e : PlanEdge}
    (own : e.outcome.value = outcome ∧ e.sourceStepId = some stepId) :
    RuntimePlanStep.bindEdge stepId outcome e = .ok e := by
  obtain ⟨rfl, source⟩ := own
  unfold RuntimePlanStep.bindEdge
  rw [requireText_self, ok_bind, ensure_of rfl, ok_bind, source]
  dsimp only
  rw [ensure_of rfl, ok_bind]
  rfl

theorem step_read (s : RuntimePlanStep) : RuntimePlanStep.fromDict s.toPayload = .ok s := by
  have edges : (s.edges.map fun _ e => e.toPayload).tryMap (fun _ edge => PlanEdge.fromDict edge) =
      .ok s.edges := Dict.tryMap_map fun _ e _ => edge_read e
  have bound : s.edges.tryMap (RuntimePlanStep.bindEdge s.stepId) = .ok s.edges :=
    Dict.tryMap_self fun outcome e held => bindEdge_self (s.bound outcome e held)
  unfold RuntimePlanStep.fromDict RuntimePlanStep.toPayload
  simp only [memberText, ok_bind, edges, requireText_self]
  split
  · next refused => cases bound.symm.trans refused
  · next made =>
    obtain rfl := Except.ok.inj (bound.symm.trans made)
    rw [dif_pos s.leaf]
    rfl

/-! ## Plans -/

theorem keyStep_self {stepId : String} {s : RuntimePlanStep} (own : s.stepId.value = stepId) :
    RuntimePlan.keyStep stepId s = .ok s := by
  subst own
  unfold RuntimePlan.keyStep
  rw [requireText_self, ok_bind, ensure_of rfl, ok_bind]
  rfl

section Digests
variable [Sha256]

/-- A plan whose targets are declared is read back from its payload, with its own
digest beside it or with none. -/
theorem plan_read {p : RuntimePlan} (targets : RuntimePlan.checkTargets p.steps = .ok ())
    {digest : Option String} (own : ∀ supplied ∈ digest, supplied = p.runtimePlanDigest.value) :
    RuntimePlan.fromDict { p.toPayload with runtimePlanDigest := digest } = .ok p := by
  have steps : (p.steps.map fun _ s => s.toPayload).tryMap (fun _ step => RuntimePlanStep.fromDict step) =
      .ok p.steps := Dict.tryMap_map fun _ s _ => step_read s
  have keyed : p.steps.tryMap RuntimePlan.keyStep = .ok p.steps :=
    Dict.tryMap_self fun stepId s held => keyStep_self (p.keyed stepId s held)
  have granted : (([] : List (String × Json)).map Prod.fst).filter
      (· ∈ RuntimePlan.forbiddenFields) = [] := rfl
  unfold RuntimePlan.fromDict RuntimePlan.toPayload
  dsimp only
  rw [ensure_of granted, ok_bind]
  simp only [memberText, ok_bind, steps, requireText_self]
  rw [dif_pos p.nonempty]
  split
  · next refused => cases keyed.symm.trans refused
  · next made =>
    obtain rfl := Except.ok.inj (keyed.symm.trans made)
    rw [targets, ok_bind, ensure_of own, ok_bind]
    rfl

/-- `RuntimePlan.from_dict(p.to_dict())`. -/
theorem fromDict_toPayload {p : RuntimePlan} (targets : RuntimePlan.checkTargets p.steps = .ok ()) :
    RuntimePlan.fromDict p.toPayload = .ok p :=
  plan_read targets fun _ supplied => (Option.some.inj supplied).symm

/-! ## Entries -/

/-- Every entry was given as a value of its class. -/
def AllTyped {α : Type} (entries : Option (List (PlanEntry α))) : Prop :=
  ∀ entry ∈ entries.getD [], entry.isTyped

/-- The entries as they come back: each is a value read from its members. -/
def reread {α : Type} (toDict : α → List (String × Json)) (fromDict : List (String × Json) → α)
    (entries : Option (List (PlanEntry α))) : Option (List (PlanEntry α)) :=
  (entries.map fun entries => entries.map fun entry => entry.members toDict).map fun rows =>
    rows.map fun members => .typed (fromDict members)

omit [Sha256] in
theorem allTyped_reread {α : Type} (toDict : α → List (String × Json))
    (fromDict : List (String × Json) → α) (entries : Option (List (PlanEntry α))) :
    AllTyped (reread toDict fromDict entries) := by
  intro entry inside
  cases entries with
  | none => cases inside
  | some entries =>
    obtain ⟨members, -, rfl⟩ := List.mem_map.mp inside
    trivial

omit [Sha256] in
/-- Typed entries come back as they were. -/
theorem reread_typed {α : Type} {toDict : α → List (String × Json)}
    {fromDict : List (String × Json) → α} (back : ∀ value, fromDict (toDict value) = value)
    {entries : Option (List (PlanEntry α))} (typed : AllTyped entries) :
    reread toDict fromDict entries = entries := by
  cases entries with
  | none => rfl
  | some entries =>
    have each : ∀ entry ∈ entries,
        (PlanEntry.typed ∘ fromDict ∘ PlanEntry.members toDict) entry = id entry := by
      intro entry inside
      cases entry with
      | typed value => exact congrArg PlanEntry.typed (back value)
      | mapping members => exact (typed _ inside).elim
    change some ((entries.map _).map _) = _
    rw [List.map_map, Function.comp_def]
    exact congrArg some ((List.map_congr_left each).trans (List.map_id entries))

/-! ## Plan objects -/

/-- The plan that comes back. -/
def retyped (p : PlanObject) : PlanObject where
  core := p.core
  runbooks := reread RunbookObject.toDict RunbookObject.fromDict p.runbooks
  authorityRequirements :=
    reread AuthorityObject.toDict AuthorityObject.fromDict p.authorityRequirements
  bare := p.bare
  targets := p.targets

def Typed (p : PlanObject) : Prop :=
  AllTyped p.runbooks ∧ AllTyped p.authorityRequirements

omit [Sha256] in
theorem typed_retyped (p : PlanObject) : Typed (retyped p) :=
  ⟨allTyped_reread _ _ _, allTyped_reread _ _ _⟩

omit [Sha256] in
theorem retyped_eq_self {p : PlanObject} : retyped p = p ↔ Typed p := by
  constructor
  · intro same
    rw [← same]
    exact typed_retyped p
  · rintro ⟨runbooks, authority⟩
    rcases p with ⟨core, books, requirements, bare, targets⟩
    change PlanObject.mk core (reread _ _ books) (reread _ _ requirements) _ _ = _
    congr 1
    · exact reread_typed RunbookObject.fromDict_toDict runbooks
    · exact reread_typed AuthorityObject.fromDict_toDict authority

def persistedDiffers : Raised :=
  validationError "RUNTIME_PLAN_DIGEST_MISMATCH: persisted digest differs"

/-- `from_dict(p.to_dict())` reads the entries as values of their classes and compares
the digest of the result with the one beside it. -/
theorem object_read (p : PlanObject) : PlanObject.fromDict p.toDict =
    if p.runtimePlanDigest.value = (retyped p).runtimePlanDigest.value then .ok (retyped p)
    else .error persistedDiffers := by
  have core : RuntimePlan.fromDict { p.core.toPayload with
      runtimePlanDigest := none, runbooks := none, authorityRequirements := none } = .ok p.core := by
    have unsupplied : ∀ supplied ∈ (none : Option String),
        supplied = p.core.runtimePlanDigest.value := fun _ supplied => (nomatch supplied)
    have read := plan_read p.targets unsupplied
    rcases p with ⟨core, books, requirements, ⟨noBooks, noRequirements⟩, targets⟩
    simpa [RuntimePlan.toPayload, noBooks, noRequirements] using read
  unfold PlanObject.fromDict
  split
  · next refused => cases core.symm.trans refused
  · next made =>
    obtain rfl := Except.ok.inj (core.symm.trans made)
    change (ensure (∀ supplied ∈ some p.runtimePlanDigest.value,
      supplied = (retyped p).runtimePlanDigest.value) persistedDiffers >>= fun _ =>
        Except.ok (retyped p)) = _
    split
    · next same =>
      rw [ensure_of (by simpa using same), ok_bind]
    · next differs =>
      rw [ensure_error (by simpa using differs), error_bind]

/-- A plan is read back as it was exactly where all of its entries are typed. -/
theorem object_read_self {p : PlanObject} : PlanObject.fromDict p.toDict = .ok p ↔ Typed p := by
  rw [object_read]
  constructor
  · intro read
    split at read
    · exact retyped_eq_self.mp (Except.ok.inj read)
    · cases read
  · intro typed
    rw [retyped_eq_self.mpr typed, if_pos rfl]

/-! ## The store -/

omit [Sha256] in
theorem path_root {a b : FilePlanStore} (same : a.root = b.root) (ref : String) :
    a.path ref = b.path ref := by
  unfold FilePlanStore.path
  rw [same]

theorem put_new {store : FilePlanStore} {p : PlanObject} {path : List String}
    (located : store.path p.ref = .ok path) (absent : store.files.get? path = none) :
    store.put p = (.ok p, { store with files := store.files.set path p.toDict }) := by
  simp only [FilePlanStore.put, located, absent]

/-- A file that is there is compared, never written. -/
theorem put_held {store : FilePlanStore} {p : PlanObject} {path : List String}
    {stored : PlanDocument} (located : store.path p.ref = .ok path)
    (held : store.files.get? path = some stored) :
    store.put p = (PlanObject.fromDict stored >>= fun existing =>
      ensure (existing.runtimePlanDigest = p.runtimePlanDigest) (FilePlanStore.immutable p.ref) >>=
        fun _ => .ok existing, store) := by
  simp only [FilePlanStore.put, located, held]
  rfl

theorem get_held {store : FilePlanStore} {ref digest : String} {path : List String}
    {stored : PlanDocument} (located : store.path ref = .ok path)
    (held : store.files.get? path = some stored) :
    store.get ref digest = PlanObject.fromDict stored >>= fun plan =>
      ensure (plan.runtimePlanDigest.value = digest)
        (validationError "RUNTIME_PLAN_DIGEST_MISMATCH: requested digest is stale") >>=
        fun _ => .ok plan := by
  unfold FilePlanStore.get
  rw [located, ok_bind]
  simp only [held]
  rfl

/-- No put takes away or changes a file. -/
theorem put_keeps (store : FilePlanStore) (p : PlanObject) {path : List String}
    {stored : PlanDocument} (held : store.files.get? path = some stored) :
    (store.put p).2.root = store.root ∧ (store.put p).2.files.get? path = some stored := by
  cases located : store.path p.ref with
  | error e =>
    simp only [FilePlanStore.put, located]
    exact ⟨trivial, held⟩
  | ok other =>
    cases there : store.files.get? other with
    | some existing =>
      rw [put_held located there]
      exact ⟨rfl, held⟩
    | none =>
      have apart : path ≠ other := by
        rintro rfl
        cases held.symm.trans there
      rw [put_new located there]
      refine ⟨rfl, ?_⟩
      rw [Dict.get?_set, if_neg apart]
      exact held

theorem putAll_keeps (plans : List PlanObject) {store : FilePlanStore} {path : List String}
    {stored : PlanDocument} (held : store.files.get? path = some stored) :
    (store.putAll plans).root = store.root ∧
      (store.putAll plans).files.get? path = some stored := by
  induction plans generalizing store with
  | nil => exact ⟨rfl, held⟩
  | cons p rest ih =>
    obtain ⟨root, kept⟩ := put_keeps store p held
    obtain ⟨rootLater, keptLater⟩ := ih kept
    exact ⟨rootLater.trans root, keptLater⟩

/-- What the store answers about a plan whose file it has. -/
structure Answers (store : FilePlanStore) (p : PlanObject) : Prop where
  get : store.get p.ref p.runtimePlanDigest.value = .ok p
  again : ∀ q : PlanObject, q.ref = p.ref → q.runtimePlanDigest = p.runtimePlanDigest →
    store.put q = (.ok p, store)
  other : ∀ q : PlanObject, q.ref = p.ref → q.runtimePlanDigest ≠ p.runtimePlanDigest →
    store.put q = (.error (FilePlanStore.immutable q.ref), store)

theorem answers_held {store : FilePlanStore} {p : PlanObject} {path : List String}
    (located : store.path p.ref = .ok path) (held : store.files.get? path = some p.toDict)
    (typed : Typed p) : Answers store p where
  get := by
    rw [get_held located held, object_read_self.mpr typed, ok_bind, ensure_of rfl, ok_bind]
  again := by
    intro q named same
    rw [put_held (by rw [named]; exact located) held, object_read_self.mpr typed, ok_bind,
      ensure_of same.symm, ok_bind]
  other := by
    intro q named differs
    rw [put_held (by rw [named]; exact located) held, object_read_self.mpr typed, ok_bind,
      ensure_error (Ne.symm differs), error_bind]

/-- `p` is read back from what it is written as, digest included, and a store with
room for it takes it and, whatever plans are put after it, still answers with it. -/
structure RoundTrips (p : PlanObject) : Prop where
  read : PlanObject.fromDict p.toDict = .ok p
  kept : ∀ (store : FilePlanStore) (path : List String), store.path p.ref = .ok path →
    store.files.get? path = none → ∃ after, store.put p = (.ok p, after) ∧
      ∀ later : List PlanObject, Answers (after.putAll later) p

theorem roundTrips_iff {p : PlanObject} : RoundTrips p ↔ Typed p := by
  constructor
  · exact fun trips => object_read_self.mp trips.read
  · intro typed
    refine ⟨object_read_self.mpr typed, fun store path located absent =>
      ⟨_, put_new located absent, fun later => ?_⟩⟩
    have held : ({ store with files := store.files.set path p.toDict } : FilePlanStore).files.get? path =
        some p.toDict := by
      rw [Dict.get?_set, if_pos rfl]
    obtain ⟨root, kept⟩ := putAll_keeps later held
    exact answers_held (by rw [path_root root, ← located]; exact path_root rfl _) kept typed

end Digests

theorem constructed {fields : PlanFields} {raw : Dict String RuntimePlanStep}
    {runbooks : Option (List (PlanEntry RunbookObject))}
    {authority : Option (List (PlanEntry AuthorityObject))} {p : PlanObject}
    (made : PlanObject.construct fields raw runbooks authority = .ok p) :
    p.runbooks = runbooks ∧ p.authorityRequirements = authority := by
  unfold PlanObject.construct at made
  split at made
  · cases made
  · cases made
    exact ⟨rfl, rfl⟩

/-- The entries of a plan of the compiler are typed. -/
theorem typed_ofPlan (plan : RuntimePlan) (targets : RuntimePlan.checkTargets plan.steps = .ok ()) :
    Typed (PlanObject.ofPlan plan targets) := by
  constructor
  · intro entry inside
    cases books : plan.runbooks with
    | none => simp [PlanObject.ofPlan, books] at inside
    | some entries =>
      simp only [PlanObject.ofPlan, books, Option.map_some, Option.getD_some, List.mem_map] at inside
      obtain ⟨r, -, rfl⟩ := inside
      trivial
  · intro entry inside
    cases requirements : plan.authorityRequirements with
    | none => simp [PlanObject.ofPlan, requirements] at inside
    | some entries =>
      simp only [PlanObject.ofPlan, requirements, Option.map_some, Option.getD_some,
        List.mem_map] at inside
      obtain ⟨r, -, rfl⟩ := inside
      trivial

/-- A plan the constructor accepts makes the trip exactly where its runbooks and its
authority requirements were all given as values of their classes; every plan the
compiler makes does. -/
theorem plan_trip [Sha256] [UpperCase] [CompilerDigest] :
    (∀ (fields : PlanFields) (raw : Dict String RuntimePlanStep)
      (runbooks : Option (List (PlanEntry RunbookObject)))
      (authority : Option (List (PlanEntry AuthorityObject))) (p : PlanObject),
      PlanObject.construct fields raw runbooks authority = .ok p →
        (RoundTrips p ↔ AllTyped runbooks ∧ AllTyped authority)) ∧
    ∀ (b : Blueprint) (expected : Expectations) (plan : RuntimePlan),
      compileBlueprint b expected = .ok plan →
        ∃ targets, RoundTrips (PlanObject.ofPlan plan targets) := by
  constructor
  · intro fields raw runbooks authority p made
    obtain ⟨rfl, rfl⟩ := constructed made
    exact roundTrips_iff
  · intro b expected plan made
    obtain ⟨_, _, _, -, -, -, -, targets⟩ := compileBlueprint_ok made
    exact ⟨targets, roundTrips_iff.mpr (typed_ofPlan plan targets)⟩

/-! ## A runbook with only its id -/

/-- The number of members of the first runbook. -/
def firstRunbook : Json → Nat
  | .obj members =>
    match Json.member members "runbooks" with
    | some (.arr (.obj entry :: _)) => entry.length
    | _ => 0
  | _ => 0

/-- A hash that tells runbooks of different sizes apart. -/
@[reducible] def runbookHash : Sha256 := ⟨firstRunbook⟩

theorem no_edges : true = true → ({} : Dict String PlanEdge).entries = [] := fun _ => rfl

def onlyStep : RuntimePlanStep where
  stepId := ⟨"s1", by decide⟩
  semanticAction := ⟨"review", by decide⟩
  terminal := true
  bound := fun _ _ held => by cases held
  leaf := no_edges

/-- `RuntimePlan(runtime_plan_ref="rp-1", revision="1", steps=..., runbooks=[\x7b"runbook_id": "rb"\x7d])`. -/
def idOnly : PlanObject where
  core := {
    runtimePlanRef := ⟨"rp-1", by decide⟩
    revision := ⟨"1", by decide⟩
    steps := ⟨[("s1", onlyStep)], by decide⟩
    nonempty := by simp
    keyed := fun stepId s held => by
      obtain ⟨rfl, rfl⟩ := Prod.mk.inj (List.mem_singleton.mp (Dict.get?_eq_some.mp held))
      rfl }
  runbooks := some [.mapping [("runbook_id", .str "rb")]]
  bare := ⟨rfl, rfl⟩
  targets := rfl

/-- The constructor takes the plan and the store writes it, but neither `from_dict` nor
the store reads what was written. -/
theorem id_only_unreadable :
    (PlanObject.construct { runtimePlanRef := "rp-1", revision := "1" }
      ⟨[("s1", onlyStep)], by decide⟩ (some [.mapping [("runbook_id", .str "rb")]]) none = .ok idOnly) ∧
    @PlanObject.fromDict runbookHash (@PlanObject.toDict runbookHash idOnly) =
      .error persistedDiffers ∧
    (∃ after, @FilePlanStore.put runbookHash { root := ["plans"] } idOnly = (.ok idOnly, after) ∧
      @FilePlanStore.get runbookHash after "rp-1"
        (@PlanObject.runtimePlanDigest runbookHash idOnly).value = .error persistedDiffers) ∧
    ¬ @RoundTrips runbookHash idOnly := by
  let _ := runbookHash
  have unread : PlanObject.fromDict idOnly.toDict = .error persistedDiffers := by
    rw [object_read, if_neg (by decide)]
  have located : ({ root := ["plans"] } : FilePlanStore).path idOnly.ref =
      .ok ["plans", "rp-1.json"] := by decide
  refine ⟨rfl, unread, ⟨_, put_new located rfl, ?_⟩, fun trips => ?_⟩
  · have held : (({} : Dict (List String) PlanDocument).set ["plans", "rp-1.json"]
        idOnly.toDict).get? ["plans", "rp-1.json"] = some idOnly.toDict := by
      rw [Dict.get?_set, if_pos rfl]
    have kept : (FilePlanStore.mk ["plans"]
        (({} : Dict (List String) PlanDocument).set ["plans", "rp-1.json"] idOnly.toDict)).path
          idOnly.ref = .ok ["plans", "rp-1.json"] := (path_root rfl _).trans located
    refine (get_held kept held).trans ?_
    rw [unread, error_bind]
  · cases unread.symm.trans trips.read

end DwSuperApps.Guarantees.PlanRoundTrip
