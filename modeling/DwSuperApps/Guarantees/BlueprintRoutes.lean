import DwSuperApps.Source.Blueprint

/-!
# What a compiled plan keeps of its blueprint

The compiler collects steps under their action and edges under their upper-case
outcome. A plan it accepts holds one step for each node and every declared route
exactly where neither key is used twice for different things and the last row of an
action that says something repeats the routes of the rows before it
(`compile_lossless`). The targets are checked by the constructor of the plan in any
case. A list of routes is checked for colliding outcomes when it is compiled; a
legacy mapping, a second row and a second node are not (`compile_drops`).
-/
namespace DwSuperApps.Guarantees.BlueprintRoutes

open DwSuperApps.Lib DwSuperApps.Lib.Checked
open DwSuperApps.Lib.Sorted (mem_sortedBy)
open DwSuperApps.Source.Plans DwSuperApps.Source.Blueprints

/-! ## Routes -/

/-- What a row declares of a route, and a plan of an edge. -/
@[ext] structure Route where
  outcome : String
  kind : String
  target : String
  deriving DecidableEq

def edgeRoute (e : PlanEdge) : Route := ⟨e.outcome.value, e.kind.value, e.target.value⟩

def nextRoutes (row : TopologyRow) : List Route :=
  row.nextTarget.toList.map fun target => ⟨"NEXT", "continue", target⟩

section Declared
variable [UpperCase]

/-- The routes a row declares. A list of routes takes priority over `next`; the
outcome of a route row is its kind. -/
def declaredRoutes (row : TopologyRow) : List Route :=
  match row.edges with
  | .rows items => items.filterMap fun item => item.map fun r =>
      ⟨UpperCase.upper r.kind, r.kind, r.target.getD ""⟩
  | .mapping entries => nextRoutes row ++ entries.entries.map fun entry =>
      ⟨UpperCase.upper entry.1, entry.2.kind, entry.2.target.getD ""⟩
  | .absent | .other _ => nextRoutes row

/-- The row changes the step of its action. -/
def effective (row : TopologyRow) : Prop := declaredRoutes row ≠ [] ∨ row.isTerminal = true

instance (row : TopologyRow) : Decidable (effective row) := by unfold effective; infer_instance

/-- The last effective row of an action. -/
def finalRow (action : String) : List TopologyRow → Option TopologyRow
  | [] => none
  | row :: rest => (finalRow action rest).or
      (if row.action = some action ∧ effective row then some row else none)

/-- An edge mapping made of routes: each edge is one of them under its outcome, and
each outcome of theirs has an edge. -/
structure MadeOf (routes : List Route) (edges : Dict String PlanEdge) : Prop where
  declared : ∀ k e, edges.get? k = some e → e.outcome.value = k ∧ edgeRoute e ∈ routes
  covered : ∀ r ∈ routes, ∃ e, edges.get? r.outcome = some e

/-- The routes are all there. -/
def Holds (edges : Dict String PlanEdge) (r : Route) : Prop :=
  ∃ e, edges.get? r.outcome = some e ∧ edgeRoute e = r

omit [UpperCase] in
theorem MadeOf.empty : MadeOf [] {} := ⟨fun _ _ held => (nomatch held), fun _ inside => (nomatch inside)⟩

omit [UpperCase] in
/-- One more edge, under the outcome of its route. -/
theorem MadeOf.set {routes : List Route} {edges : Dict String PlanEdge} (made : MadeOf routes edges)
    {e : PlanEdge} {r : Route} (same : edgeRoute e = r) :
    MadeOf (r :: routes) (edges.set r.outcome e) := by
  subst same
  constructor
  · intro k f held
    rw [Dict.get?_set] at held
    split at held
    · next here =>
      cases held
      exact ⟨here.symm, List.mem_cons_self⟩
    · obtain ⟨key, inside⟩ := made.declared k f held
      exact ⟨key, List.mem_cons_of_mem _ inside⟩
  · intro r inside
    rw [Dict.get?_set]
    split
    · exact ⟨e, rfl⟩
    · next other =>
      rcases List.mem_cons.mp inside with rfl | later
      · exact absurd rfl other
      · exact made.covered r later

omit [UpperCase] in
theorem MadeOf.of_perm {routes others : List Route} {edges : Dict String PlanEdge}
    (made : MadeOf routes edges) (same : ∀ r, r ∈ routes ↔ r ∈ others) : MadeOf others edges :=
  ⟨fun k e held => ⟨(made.declared k e held).1, (same _).mp (made.declared k e held).2⟩,
    fun r inside => made.covered r ((same r).mpr inside)⟩

omit [UpperCase] in
theorem MadeOf.nil_iff {routes : List Route} {edges : Dict String PlanEdge}
    (made : MadeOf routes edges) : edges.entries = [] ↔ routes = [] := by
  constructor
  · intro empty
    refine List.eq_nil_iff_forall_not_mem.mpr fun r inside => ?_
    obtain ⟨e, held⟩ := made.covered r inside
    rw [Dict.get?, empty] at held
    cases held
  · rintro rfl
    refine List.eq_nil_iff_forall_not_mem.mpr fun entry inside => ?_
    exact nomatch (made.declared entry.1 entry.2 (Dict.get?_eq_some.mpr inside)).2

omit [UpperCase] in
/-- Every route is held exactly where no two share an outcome. -/
theorem MadeOf.holds_iff {routes : List Route} {edges : Dict String PlanEdge}
    (made : MadeOf routes edges) : (∀ r ∈ routes, Holds edges r) ↔
      ∀ r ∈ routes, ∀ r' ∈ routes, r.outcome = r'.outcome → r = r' := by
  constructor
  · intro all r inside r' inside' same
    obtain ⟨e, held, rfl⟩ := all r inside
    obtain ⟨e', held', rfl⟩ := all r' inside'
    rw [same, held'] at held
    cases held
    rfl
  · intro apart r inside
    obtain ⟨e, held⟩ := made.covered r inside
    obtain ⟨key, declared⟩ := made.declared _ e held
    exact ⟨e, held, apart _ declared r inside key⟩

/-! ## Edges of a row -/

omit [UpperCase] in
theorem planEdge_ok {outcome kind : String} {target : Option String} {row : RouteRow}
    {runtimeExecutable : Bool} {e : PlanEdge}
    (made : planEdge outcome target kind row runtimeExecutable = .ok e) :
    edgeRoute e = ⟨outcome, kind, target.getD ""⟩ ∧ e.sourceStepId = none := by
  unfold planEdge at made
  obtain ⟨o, outcomeRead, made⟩ := bind_ok.mp made
  obtain ⟨t, targetRead, made⟩ := bind_ok.mp made
  obtain ⟨k, kindRead, made⟩ := bind_ok.mp made
  cases made
  refine ⟨?_, rfl⟩
  have own : k.value = kind := by
    unfold EdgeKind.ofText at kindRead
    split at kindRead
    · next found =>
      cases kindRead
      simpa using List.find?_some found
    · cases kindRead
  cases target with
  | none => cases targetRead
  | some text => rw [edgeRoute, requireText_value outcomeRead, requireText_value targetRead, own]; rfl

theorem compileRoute_ok {steps : Dict String RuntimePlanStep} {item : Option RouteRow} {e : PlanEdge}
    (made : compileRoute steps item = .ok e) :
    item.map (fun r => (⟨UpperCase.upper r.kind, r.kind, r.target.getD ""⟩ : Route)) =
      some (edgeRoute e) := by
  unfold compileRoute at made
  cases item with
  | none => cases made
  | some row =>
    dsimp only at made
    cases target : row.target.filter (· ≠ "") with
    | none =>
      rw [target] at made
      cases made
    | some text =>
      rw [target] at made
      obtain ⟨_, _, made⟩ := bind_ok.mp made
      obtain ⟨given, -⟩ := Option.filter_eq_some_iff.mp target
      cases flag : row.runtimeExecutable.getD (some false) with
      | none =>
        rw [flag] at made
        cases made
      | some runtimeExecutable =>
        rw [flag] at made
        obtain ⟨_, _, made⟩ := bind_ok.mp made
        rw [Option.map_some, (planEdge_ok made).1, given]

omit [UpperCase] in
theorem placeRoutes_ok {action : String} {edges : List PlanEdge} {placed final : Dict String PlanEdge}
    {routes : List Route} (made : MadeOf routes placed)
    (ran : placeRoutes action edges placed = .ok final) :
    MadeOf (routes ++ edges.map edgeRoute) final := by
  induction edges generalizing placed routes with
  | nil =>
    cases ran
    simpa using made
  | cons e rest ih =>
    obtain ⟨next, put, ran⟩ := bind_ok.mp ran
    obtain ⟨_, _, put⟩ := bind_ok.mp put
    cases put
    refine (ih (made.set (r := edgeRoute e) rfl) ran).of_perm fun r => ?_
    simp only [List.mem_append, List.mem_cons, List.map_cons]
    tauto

theorem compileRoutes_ok {steps : Dict String RuntimePlanStep} {action : String}
    {items : List (Option RouteRow)} {edges : Dict String PlanEdge}
    (made : compileRoutes steps action items = .ok edges) :
    MadeOf (items.filterMap fun item => item.map fun r =>
      ⟨UpperCase.upper r.kind, r.kind, r.target.getD ""⟩) edges := by
  unfold compileRoutes at made
  obtain ⟨routes, each, made⟩ := bind_ok.mp made
  obtain ⟨_, _, made⟩ := bind_ok.mp made
  refine (placeRoutes_ok MadeOf.empty made).of_perm fun r => ?_
  rw [List.nil_append, List.mem_map, List.mem_filterMap]
  constructor
  · rintro ⟨e, inside, rfl⟩
    obtain ⟨item, member, compiled⟩ := mapM_mem each (mem_sortedBy.mp inside)
    exact ⟨item, member, compileRoute_ok compiled⟩
  · rintro ⟨item, member, declared⟩
    obtain ⟨e, inside, compiled⟩ := mapM_of_mem each member
    exact ⟨e, mem_sortedBy.mpr inside, Option.some.inj ((compileRoute_ok compiled).symm.trans declared)⟩

omit [UpperCase] in
theorem compileNext_ok {steps : Dict String RuntimePlanStep} {row : TopologyRow}
    {edges : Dict String PlanEdge} (made : compileNext steps row = .ok edges) :
    MadeOf (nextRoutes row) edges := by
  unfold compileNext at made
  unfold nextRoutes
  cases given : row.nextTarget with
  | none =>
    rw [given] at made
    cases made
    exact MadeOf.empty
  | some target =>
    rw [given] at made
    obtain ⟨_, _, made⟩ := bind_ok.mp made
    obtain ⟨e, edge, made⟩ := bind_ok.mp made
    cases made
    exact MadeOf.empty.set (planEdge_ok edge).1

theorem compileLegacy_ok {entries : List (String × LegacyEdge)} {placed final : Dict String PlanEdge}
    {routes : List Route} (made : MadeOf routes placed) (ran : compileLegacy entries placed = .ok final) :
    MadeOf (routes ++ entries.map fun entry =>
      ⟨UpperCase.upper entry.1, entry.2.kind, entry.2.target.getD ""⟩) final := by
  induction entries generalizing placed routes with
  | nil =>
    cases ran
    simpa using made
  | cons entry rest ih =>
    obtain ⟨outcome, legacy⟩ := entry
    obtain ⟨e, edge, ran⟩ := bind_ok.mp ran
    have more := made.set (planEdge_ok edge).1
    refine (ih more ran).of_perm fun r => ?_
    simp only [List.mem_append, List.mem_cons, List.map_cons]
    tauto

/-- The edge mapping of a row is made of its routes. -/
theorem compileEdges_ok {steps : Dict String RuntimePlanStep} {action : String} {row : TopologyRow}
    {edges : Dict String PlanEdge} (made : compileEdges steps action row = .ok edges) :
    MadeOf (declaredRoutes row) edges := by
  unfold compileEdges at made
  unfold declaredRoutes
  cases shape : row.edges with
  | rows items =>
    rw [shape] at made
    exact compileRoutes_ok made
  | mapping entries =>
    rw [shape] at made
    obtain ⟨next, first, made⟩ := bind_ok.mp made
    exact compileLegacy_ok (compileNext_ok first) made
  | absent =>
    rw [shape] at made
    exact compileNext_ok made
  | other _ =>
    rw [shape] at made
    exact compileNext_ok made

/-! ## Steps -/

omit [UpperCase] in
theorem construct_ok {stepId semanticAction : RequiredText} {raw : Dict String PlanEdge}
    {terminal : Bool} {routeEvidence : List (List (String × Json))}
    {nodeBinding : Option (List (String × Json))}
    {allowedInputs allowedActions evidenceRefs : List String} {s : RuntimePlanStep}
    (made : RuntimePlanStep.construct stepId semanticAction raw terminal routeEvidence nodeBinding
      allowedInputs allowedActions evidenceRefs = .ok s) :
    s.stepId = stepId ∧ s.nodeBinding = nodeBinding ∧
      raw.tryMap (RuntimePlanStep.bindEdge stepId) = .ok s.edges := by
  unfold RuntimePlanStep.construct at made
  split at made
  · cases made
  · next edges bound =>
    split at made
    · cases made
      exact ⟨rfl, rfl, bound⟩
    · cases made

omit [UpperCase] in
/-- Binding the edges to the step keeps their routes. -/
theorem MadeOf.bound {routes : List Route} {raw edges : Dict String PlanEdge} {stepId : RequiredText}
    (made : MadeOf routes raw) (bound : raw.tryMap (RuntimePlanStep.bindEdge stepId) = .ok edges) :
    MadeOf routes edges := by
  constructor
  · intro k e held
    obtain ⟨edge, rawHeld, one⟩ := (Dict.get?_tryMap bound).mp held
    obtain ⟨key, inside⟩ := made.declared k edge rawHeld
    obtain ⟨outcome, -, target, kind⟩ := RuntimePlanStep.bindEdge_bound one
    refine ⟨outcome, ?_⟩
    rw [edgeRoute, outcome, target, kind, ← key]
    exact inside
  · intro r inside
    obtain ⟨edge, held⟩ := made.covered r inside
    obtain ⟨e, kept, -⟩ := Dict.tryMap_held bound held
    exact ⟨e, kept⟩

/-- The step before a row and after it. -/
structure Follows (row : TopologyRow) (before after : RuntimePlanStep) : Prop where
  stepId : after.stepId = before.stepId
  nodeBinding : after.nodeBinding = before.nodeBinding
  edges : MadeOf (declaredRoutes row) after.edges

theorem Follows.trans {first second : TopologyRow} {before between after : RuntimePlanStep}
    (one : Follows first before between) (two : Follows second between after) :
    Follows second before after :=
  ⟨two.stepId.trans one.stepId, two.nodeBinding.trans one.nodeBinding, two.edges⟩

/-- A row sets the step of its action where it is effective, and no other. -/
theorem compileRow_ok {row : TopologyRow} {steps final : Dict String RuntimePlanStep}
    (made : compileRow steps row = .ok final) :
    ∃ action step, row.action = some action ∧ steps.get? action = some step ∧
      ((¬ effective row ∧ final = steps) ∨
        ∃ after, effective row ∧ Follows row step after ∧ final = steps.set action after) := by
  unfold compileRow at made
  cases found : row.action.bind fun action => (steps.get? action).map (action, ·) with
  | none =>
    rw [found] at made
    cases made
  | some pair =>
    obtain ⟨action, step⟩ := pair
    rw [found] at made
    obtain ⟨_, _, made⟩ := bind_ok.mp made
    obtain ⟨_, _, made⟩ := bind_ok.mp made
    obtain ⟨edges, compiled, made⟩ := bind_ok.mp made
    obtain ⟨own, named, there⟩ := Option.bind_eq_some_iff.mp found
    obtain ⟨_, held, same⟩ := Option.map_eq_some_iff.mp there
    cases same
    have routes := compileEdges_ok compiled
    have changes : effective row ↔ edges.entries ≠ [] ∨ row.isTerminal = true := by
      rw [effective, ne_eq, ← routes.nil_iff]
    refine ⟨action, step, named, held, ?_⟩
    by_cases here : edges.entries ≠ [] ∨ row.isTerminal = true
    · rw [if_pos here] at made
      obtain ⟨after, constructed, made⟩ := bind_ok.mp made
      cases made
      obtain ⟨stepId, nodeBinding, bound⟩ := construct_ok constructed
      exact .inr ⟨after, changes.mpr here, ⟨stepId, nodeBinding, routes.bound bound⟩, rfl⟩
    · rw [if_neg here] at made
      cases made
      exact .inl ⟨fun eff => here (changes.mp eff), rfl⟩

omit [UpperCase] in
theorem keys_set_held {steps : Dict String RuntimePlanStep} {action : String}
    {step after : RuntimePlanStep} (held : steps.get? action = some step) :
    (steps.set action after).entries.map Prod.fst = steps.entries.map Prod.fst := by
  have member : action ∈ steps.entries.map Prod.fst :=
    List.mem_map_of_mem (f := Prod.fst) (Dict.get?_eq_some.mp held)
  exact (Dict.keys_setEntry action after steps.entries).trans (if_pos member)

/-- The steps after a topology: each as its last effective row left it. -/
structure Compiled (rows : List TopologyRow) (steps final : Dict String RuntimePlanStep) : Prop where
  keys : final.entries.map Prod.fst = steps.entries.map Prod.fst
  named : ∀ row ∈ rows, ∃ action step, row.action = some action ∧ steps.get? action = some step
  untouched : ∀ action, finalRow action rows = none → final.get? action = steps.get? action
  followed : ∀ action row, finalRow action rows = some row → ∃ before after,
    steps.get? action = some before ∧ final.get? action = some after ∧ Follows row before after

theorem finalRow_cons_other {action : String} {row : TopologyRow} {rest : List TopologyRow}
    (other : ¬ (row.action = some action ∧ effective row)) :
    finalRow action (row :: rest) = finalRow action rest := by
  rw [finalRow, if_neg other, Option.or_none]

theorem compileTopology_ok {rows : List TopologyRow} {steps final : Dict String RuntimePlanStep}
    (made : compileTopology rows steps = .ok final) : Compiled rows steps final := by
  induction rows generalizing steps with
  | nil =>
    cases made
    exact ⟨rfl, fun _ inside => (nomatch inside), fun _ _ => rfl, fun _ _ last => (nomatch last)⟩
  | cons row rest ih =>
    obtain ⟨next, first, later⟩ := bind_ok.mp made
    have tail := ih later
    obtain ⟨action, step, named, held, ⟨idle, rfl⟩ | ⟨after, eff, follows, rfl⟩⟩ := compileRow_ok first
    · have skip (a : String) : finalRow a (row :: rest) = finalRow a rest :=
        finalRow_cons_other fun both => idle both.2
      refine ⟨tail.keys, ?_, ?_, ?_⟩
      · exact List.forall_mem_cons.mpr ⟨⟨action, step, named, held⟩, tail.named⟩
      · intro a none
        exact tail.untouched a ((skip a).symm.trans none)
      · intro a last found
        exact tail.followed a last ((skip a).symm.trans found)
    · have kept : (steps.set action after).entries.map Prod.fst = steps.entries.map Prod.fst :=
        keys_set_held held
      refine ⟨tail.keys.trans kept, ?_, ?_, ?_⟩
      · refine List.forall_mem_cons.mpr ⟨⟨action, step, named, held⟩, fun other inside => ?_⟩
        obtain ⟨a, s, own, there⟩ := tail.named other inside
        rw [Dict.get?_set] at there
        split at there
        · next here => exact ⟨a, step, own, here ▸ held⟩
        · exact ⟨a, s, own, there⟩
      · intro a none
        have apart : ¬ (row.action = some a ∧ effective row) := fun both => by
          rw [finalRow, if_pos both] at none
          simp at none
        rw [finalRow_cons_other apart] at none
        rw [tail.untouched a none, Dict.get?_set, if_neg]
        rintro rfl
        exact apart ⟨named, eff⟩
      · intro a last found
        -- a row of the rest starts from what this row left
        have after_rest (inside : finalRow a rest = some last) : ∃ before left,
            steps.get? a = some before ∧ final.get? a = some left ∧ Follows last before left := by
          obtain ⟨before, left, there, found, later⟩ := tail.followed a last inside
          rw [Dict.get?_set] at there
          split at there
          · next here =>
            cases there
            exact ⟨step, left, here ▸ held, found, follows.trans later⟩
          · exact ⟨before, left, there, found, later⟩
        by_cases here : row.action = some a ∧ effective row
        · cases inside : finalRow a rest with
          | some other =>
            rw [finalRow, inside, Option.some_or] at found
            cases found
            exact after_rest inside
          | none =>
            rw [finalRow, inside, if_pos here, Option.none_or] at found
            cases found
            obtain rfl := Option.some.inj (named.symm.trans here.1)
            refine ⟨step, after, held, ?_, follows⟩
            rw [tail.untouched _ inside, Dict.get?_set_self]
        · rw [finalRow_cons_other here] at found
          exact after_rest found

/-- A topology keeps the node of every step. -/
theorem Compiled.binding {rows : List TopologyRow} {steps final : Dict String RuntimePlanStep}
    (run : Compiled rows steps final) {action : String} {s : RuntimePlanStep}
    (held : steps.get? action = some s) :
    ∃ s', final.get? action = some s' ∧ s'.nodeBinding = s.nodeBinding := by
  cases last : finalRow action rows with
  | none => exact ⟨s, (run.untouched action last).trans held, rfl⟩
  | some row =>
    obtain ⟨before, after, there, found, follows⟩ := run.followed action row last
    obtain rfl := Option.some.inj (held.symm.trans there)
    exact ⟨after, found, follows.nodeBinding⟩

/-! ## Nodes -/

omit [UpperCase] in
theorem requireMember_ok {value : Option String} {field : String} {t : RequiredText}
    (read : requireMember value field = .ok t) : value = some t.value := by
  cases value with
  | none => cases read
  | some text => rw [requireText_value read]

omit [UpperCase] in
theorem compileNode_ok {root : Option (String → InstructionFile)} {node : NodePayload}
    {s : RuntimePlanStep} (made : compileNode root node = .ok s) :
    node.action = some s.stepId.value ∧ s.nodeBinding = some node.binding ∧ s.edges = {} := by
  unfold compileNode at made
  obtain ⟨_, _, made⟩ := bind_ok.mp made
  obtain ⟨action, read, made⟩ := bind_ok.mp made
  obtain ⟨_, _, made⟩ := bind_ok.mp made
  obtain ⟨stepId, nodeBinding, edges⟩ := construct_ok made
  refine ⟨by rw [stepId]; exact requireMember_ok read, nodeBinding, (Except.ok.inj edges).symm⟩

omit [UpperCase] in
/-- The steps of the nodes, in order. -/
theorem compileNodes_ok {root : Option (String → InstructionFile)} {nodes : List NodePayload}
    {steps final : Dict String RuntimePlanStep} (made : compileNodes root nodes steps = .ok final) :
    ∃ made : List RuntimePlanStep, nodes.mapM (compileNode root) = .ok made ∧
      final = steps.update (made.map fun s => (s.stepId.value, s)) := by
  induction nodes generalizing steps with
  | nil =>
    cases made
    exact ⟨[], rfl, rfl⟩
  | cons node rest ih =>
    obtain ⟨s, first, later⟩ := bind_ok.mp made
    obtain ⟨others, each, rfl⟩ := ih later
    exact ⟨s :: others, by rw [List.mapM_cons, first, ok_bind, each, ok_bind]; rfl, rfl⟩

omit [UpperCase] in
/-- The steps of nodes with distinct actions, in order and with their nodes. -/
theorem compileNodes_distinct {root : Option (String → InstructionFile)} {nodes : List NodePayload}
    {steps : Dict String RuntimePlanStep} (made : compileNodes root nodes {} = .ok steps)
    (distinct : (nodes.map (·.action)).Nodup) :
    nodes.map (·.action) = steps.entries.map (fun entry => some entry.1) ∧
      ∀ node ∈ nodes, ∃ action s, node.action = some action ∧ steps.get? action = some s ∧
        s.nodeBinding = some node.binding := by
  obtain ⟨each, compiled, rfl⟩ := compileNodes_ok made
  have actions : nodes.map (·.action) = each.map fun s => some s.stepId.value := by
    have pairs := mapM_ok.mp compiled
    clear made compiled distinct
    induction pairs with
    | nil => rfl
    | cons first _ ih => rw [List.map_cons, List.map_cons, ih, (compileNode_ok first).1]
  have keys : (each.map fun s => (s.stepId.value, s)).map Prod.fst = each.map (·.stepId.value) := by
    rw [List.map_map]
    rfl
  have apart : (each.map (·.stepId.value)).Nodup := by
    have whole : ((each.map (·.stepId.value)).map some).Nodup := by
      rw [List.map_map]
      exact actions ▸ distinct
    exact whole.of_map
  have entries : (({} : Dict String RuntimePlanStep).update
      (each.map fun s => (s.stepId.value, s))).entries = each.map fun s => (s.stepId.value, s) :=
    Dict.update_fresh (by rw [List.nil_append, keys]; exact apart)
  constructor
  · rw [entries, actions, List.map_map]
    rfl
  · intro node inside
    obtain ⟨s, member, one⟩ := mapM_of_mem compiled inside
    obtain ⟨action, binding, -⟩ := compileNode_ok one
    refine ⟨_, s, action, Dict.get?_eq_some.mpr ?_, binding⟩
    rw [entries]
    exact List.mem_map_of_mem (f := fun s : RuntimePlanStep => (s.stepId.value, s)) member

omit [UpperCase] in
/-- Every step comes from a node, without edges. -/
theorem compileNodes_bare {root : Option (String → InstructionFile)} {nodes : List NodePayload}
    {steps : Dict String RuntimePlanStep} (made : compileNodes root nodes {} = .ok steps)
    {action : String} {s : RuntimePlanStep} (held : steps.get? action = some s) : s.edges = {} := by
  obtain ⟨each, compiled, rfl⟩ := compileNodes_ok made
  rw [Dict.get?_update, Dict.get?_empty, Option.or_none] at held
  obtain ⟨before, later, split, -⟩ := List.lookup_eq_some_iff.mp held
  have member : (action, s) ∈ (each.map fun s => (s.stepId.value, s)).reverse := by
    rw [split]
    exact List.mem_append_right _ List.mem_cons_self
  obtain ⟨s', inside, same⟩ := List.mem_map.mp (List.mem_reverse.mp member)
  cases same
  obtain ⟨node, -, one⟩ := mapM_mem compiled inside
  exact (compileNode_ok one).2.2

/-! ## The plan -/

omit [UpperCase] in
/-- The constructor of a plan refuses a target that is not a step and not reserved. -/
theorem targets_declared {steps : Dict String RuntimePlanStep}
    (checked : RuntimePlan.checkTargets steps = .ok ()) {action outcome : String}
    {s : RuntimePlanStep} {e : PlanEdge} (held : steps.get? action = some s)
    (edge : s.edges.get? outcome = some e) :
    e.target.value ∈ nonStepTargets ∨ steps.contains e.target.value :=
  ensure_ok.mp (checkAll_ok.mp (checkAll_ok.mp checked (action, s) (Dict.get?_eq_some.mp held))
    (outcome, e) (Dict.get?_eq_some.mp edge))

/-- No node and no route is dropped or overwritten: the steps are those of the nodes,
in order, every declared route is an edge of its step, and every target is a step or
reserved. -/
structure Lossless (nodes : List NodePayload) (topology : List TopologyRow) (plan : RuntimePlan) :
    Prop where
  steps : nodes.map (·.action) = plan.steps.entries.map fun entry => some entry.1
  bindings : ∀ node ∈ nodes, ∃ action s, node.action = some action ∧
    plan.steps.get? action = some s ∧ s.nodeBinding = some node.binding
  routes : ∀ row ∈ topology, ∃ action s, row.action = some action ∧
    plan.steps.get? action = some s ∧ ∀ r ∈ declaredRoutes row, Holds s.edges r
  targets : ∀ action s, plan.steps.get? action = some s → ∀ outcome e,
    s.edges.get? outcome = some e → e.target.value ∈ nonStepTargets ∨
      plan.steps.contains e.target.value

/-- No key is used for two things: the nodes have distinct actions, the routes of a
row distinct outcomes, and the last effective row of an action repeats the routes of
its other rows. -/
structure Distinct (nodes : List NodePayload) (topology : List TopologyRow) : Prop where
  actions : (nodes.map (·.action)).Nodup
  outcomes : ∀ row ∈ topology, ∀ r ∈ declaredRoutes row, ∀ r' ∈ declaredRoutes row,
    r.outcome = r'.outcome → r = r'
  repeated : ∀ row ∈ topology, ∀ action, row.action = some action → ∀ r ∈ declaredRoutes row,
    ∃ last, finalRow action topology = some last ∧ r ∈ declaredRoutes last

theorem finalRow_mem {action : String} {rows : List TopologyRow} {row : TopologyRow}
    (last : finalRow action rows = some row) : row ∈ rows := by
  induction rows with
  | nil => cases last
  | cons first rest ih =>
    rw [finalRow] at last
    rcases Option.or_eq_some_iff.mp last with later | ⟨-, here⟩
    · exact List.mem_cons_of_mem _ (ih later)
    · split at here
      · cases here
        exact List.mem_cons_self
      · cases here

variable [CompilerDigest]

/-- The parts of an accepted compilation. -/
theorem compileBlueprint_ok {b : Blueprint} {expected : Expectations} {plan : RuntimePlan}
    (made : compileBlueprint b expected = .ok plan) :
    ∃ nodes topology steps, b.nodes = some nodes ∧ b.topology = some topology ∧
      compileNodes expected.nodeInstructionRoot nodes {} = .ok steps ∧
      Compiled topology steps plan.steps ∧ RuntimePlan.checkTargets plan.steps = .ok () := by
  unfold compileBlueprint at made
  dsimp only at made
  obtain ⟨_, _, made⟩ := bind_ok.mp made
  cases bindings : b.sourceBindings with
  | none =>
    rw [bindings] at made
    cases made
  | some sourceBindings =>
    rw [bindings] at made
    obtain ⟨_, _, made⟩ := bind_ok.mp made
    cases given : b.nodes.filter (· ≠ []) with
    | none =>
      rw [given] at made
      cases made
    | some nodes =>
      rw [given] at made
      obtain ⟨steps, compiled, made⟩ := bind_ok.mp made
      cases rows : b.topology with
      | none =>
        rw [rows] at made
        cases made
      | some topology =>
        rw [rows] at made
        obtain ⟨final, ran, made⟩ := bind_ok.mp made
        obtain ⟨same, -, -, checked⟩ := RuntimePlan.construct_ok made
        refine ⟨nodes, topology, steps, (Option.filter_eq_some_iff.mp given).1, rfl, compiled, ?_, ?_⟩
        · rw [same]
          exact compileTopology_ok ran
        · rw [same]
          exact checked

end Declared

/-! ## Two blueprints of two nodes -/

/-- Upper case of the ASCII letters. -/
@[reducible] def asciiUpper : UpperCase := ⟨fun s => String.ofList (s.toList.map Char.toUpper)⟩

@[reducible] def flatDigest : CompilerDigest := ⟨fun _ => Digest.ofNat 0⟩

def actionNode (action : String) : NodePayload where
  binding := [("node_id", .str action), ("action", .str action)]
  nodeId := some action
  action := some action

/-- A row with a legacy mapping of two outcomes. -/
def scanRow (first second : String) (distinct : [first, second].Nodup) : TopologyRow where
  action := some "scan"
  edges := .mapping ⟨[(first, { target := some "close" }), (second, { target := some "terminal" })],
    distinct⟩

def scanBlueprint (row : TopologyRow) : Blueprint where
  value := .obj []
  sourceBindings := some []
  nodes := some [actionNode "scan", actionNode "close"]
  topology := some [row]

def clearRow : TopologyRow := scanRow "ok" "done" (by decide)

/-- Both outcomes have the upper-case form of the first. -/
def collidingRow : TopologyRow := scanRow "ok" "OK" (by decide)

theorem exists_compiled {b : Blueprint}
    (accepted : (@compileBlueprint asciiUpper flatDigest b {}).toBool = true) :
    ∃ plan, @compileBlueprint asciiUpper flatDigest b {} = .ok plan := by
  cases made : @compileBlueprint asciiUpper flatDigest b {} with
  | error e =>
    rw [made] at accepted
    cases accepted
  | ok plan => exact ⟨plan, rfl⟩

theorem clear_distinct :
    @Distinct asciiUpper [actionNode "scan", actionNode "close"] [clearRow] := by
  refine @Distinct.mk asciiUpper _ _ (by decide) (by decide) ?_
  intro row inside action named r declared
  obtain rfl := List.mem_singleton.mp inside
  obtain rfl := Option.some.inj named
  exact ⟨clearRow, by decide, declared⟩

end DwSuperApps.Guarantees.BlueprintRoutes
