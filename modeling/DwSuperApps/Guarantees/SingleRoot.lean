import DwSuperApps.Source.HostPack

/-!
# One root card for each run

What the transport of a host applies over all its operations, failures and restarts.

- `materialize_effect`, `applyAction_accepted`, `applyAction_replies`: the operation one call of
  the adapter sends, and the binding it leaves.
- `consistent_step`: while every step is orderly, a run is bound exactly when its root has
  been created, and never to another root.
- `disorder_astray`, `Astray.shows`: after a step that is not orderly, the next card that is
  delivered is a second root or the update of a root that was never created.
- `orderly_single`: both over whole runs.
-/
namespace DwSuperApps.Guarantees.SingleRoot

open DwSuperApps.Lib
open DwSuperApps.Lib.Runs (run Along Always)
open DwSuperApps.Source DwSuperApps.Source.HostPack
open DwSuperApps.Source.Runtime (VersionedRunState)

/-! ## What the transport may have applied -/

/-- The operations that create a root. -/
def creates (ops : List ProjectionOp) : List ProjectionOp := ops.filter (·.op = .createRoot)

/-- Every update is of a root that an earlier operation created. -/
def Targeted (ops : List ProjectionOp) : Prop :=
  ∀ before op after, ops = before ++ op :: after → op.op = .updateRoot →
    ∃ made ∈ before, made.op = .createRoot ∧ made.root = op.root

structure Safe (w : World) : Prop where
  single : (creates w.transport.ops).length ≤ 1
  targeted : Targeted w.transport.ops

theorem creates_append (xs ys : List ProjectionOp) : creates (xs ++ ys) = creates xs ++ creates ys :=
  List.filter_append ..

theorem creates_of {op : ProjectionOp} (kind : op.op = .createRoot) : creates [op] = [op] := by
  simp [creates, kind]

theorem creates_none {op : ProjectionOp} (kind : op.op ≠ .createRoot) : creates [op] = [] := by
  simp [creates, kind]

theorem mem_creates {ops : List ProjectionOp} {op : ProjectionOp} :
    op ∈ creates ops ↔ op ∈ ops ∧ op.op = .createRoot := by
  simp [creates]

theorem targeted_nil : Targeted [] := by
  intro before op after split
  simp at split

/-- One more operation is targeted where it is no update, or the update of a created root. -/
theorem targeted_append {ops : List ProjectionOp} {op : ProjectionOp} (targeted : Targeted ops)
    (last : op.op = .updateRoot → ∃ made ∈ ops, made.op = .createRoot ∧ made.root = op.root) :
    Targeted (ops ++ [op]) := by
  intro before other after split kind
  rcases List.append_eq_append_iff.mp split with ⟨more, rfl, tail⟩ | ⟨more, rfl, tail⟩
  · cases more with
    | nil =>
      obtain ⟨rfl, -⟩ := List.cons.inj tail
      simpa using last kind
    | cons first rest =>
      have nothing : rest ++ other :: after = [] := (List.cons.inj tail).2.symm
      simp at nothing
  · cases more with
    | nil =>
      obtain ⟨rfl, -⟩ := List.cons.inj tail
      simpa using last kind
    | cons first rest =>
      obtain ⟨rfl, -⟩ := List.cons.inj tail
      exact targeted before other rest rfl kind

/-! ## One call of the adapter -/

/-- Every binding of the registry is the one of the run. -/
def Own (runId : String) (d : Dict String Binding) : Prop :=
  ∀ k b, d.get? k = some b → k = keyOf runId ∧ b.bindingKey = keyOf runId ∧ b.channel = channel ∧
    b.root = rootOf runId

/-- The run has a root card, as far as the registry knows. -/
def Bound (runId : String) (a : Adapter) : Prop := (a.registry.lookup (keyOf runId)).isSome

instance (runId : String) (a : Adapter) : Decidable (Bound runId a) := by
  unfold Bound; infer_instance

/-- What reaches the transport of one operation. -/
def reached (delivery : Delivery) (op : ProjectionOp) : List ProjectionOp :=
  if delivery = .refused then [] else [op]

theorem own_empty (runId : String) : Own runId {} := by
  intro k b held
  rw [Dict.get?_empty] at held
  cases held

theorem own_set {runId : String} {d : Dict String Binding} {b : Binding} (own : Own runId d)
    (key : b.bindingKey = keyOf runId) (route : b.channel = channel) (root : b.root = rootOf runId) :
    Own runId (d.set (keyOf runId) b) := by
  intro k other held
  rw [Dict.get?_set] at held
  by_cases same : k = keyOf runId
  · rw [if_pos same] at held
    cases held
    exact ⟨same, key, route, root⟩
  · rw [if_neg same] at held
    exact own k other held

section Calls
variable {runId : String} {a : Adapter} {delivery : Delivery}

theorem deliver_ops (t : SlackTransport) (op : ProjectionOp) :
    (t.deliver op delivery).2.ops = t.ops ++ reached delivery op := by
  cases delivery with
  | delivered => rfl
  | refused => exact (List.append_nil _).symm
  | lost => rfl

theorem send_ops {rendered : Except Failure ProjectionOp} {op : ProjectionOp}
    (made : rendered = .ok op) :
    (a.send rendered delivery).2.transport.ops = a.transport.ops ++ reached delivery op := by
  subst made
  exact deliver_ops a.transport op

theorem send_registry (rendered : Except Failure ProjectionOp) :
    (a.send rendered delivery).2.registry = a.registry := by
  cases rendered <;> rfl

theorem root_ne_empty (runId : String) : rootOf runId ≠ "" := by
  intro empty
  have first : (rootOf runId).toList = 'r' :: ("oot.".toList ++ runId.toList) := by
    rw [rootOf, String.toList_append]
    rfl
  rw [empty] at first
  cases first

theorem validateBindingRoute_ok {b : Binding} (key : b.bindingKey = keyOf runId)
    (route : b.channel = channel) (root : b.root = rootOf runId) :
    validateBindingRoute (keyOf runId) channel b = .ok () := by
  have named : b.root ≠ "" := root ▸ root_ne_empty runId
  simp [validateBindingRoute, key, route, named]

/-- The card of the run, as an operation on its one root. -/
def cardOp (runId : String) (kind : OpKind) (view : RunProjectionView) : ProjectionOp :=
  { op := kind, bindingKey := keyOf runId, channel, root := some (rootOf runId)
    payload := renderRootBlocks view }

theorem renderRootOp_bound {b : Binding} (key : b.bindingKey = keyOf runId)
    (route : b.channel = channel) (root : b.root = rootOf runId) (view : RunProjectionView) :
    renderRootOp view (keyOf runId) channel (some b) = .ok (cardOp runId .updateRoot view) := by
  rw [renderRootOp, validateBindingRoute_ok key route root, cardOp, ← root]
  rfl

variable (vr : VersionedRunState) (metadata : Metadata) (tokenUsage : Option Int)

/-- `materialize` of a run without a root: bind, then create. -/
theorem materialize_fresh (fresh : a.registry.lookup (keyOf runId) = none) :
    (a.materialize runId (some vr) metadata tokenUsage delivery).2 =
      ({ a with registry := ⟨a.registry.bindings.set (keyOf runId)
          ⟨keyOf runId, channel, rootOf runId, metadata⟩⟩ }.send
        (.ok (cardOp runId .createRoot (buildView (fromVersioned vr) metadata tokenUsage)))
        delivery).2 := by
  have absent : a.registry.bindings.get? (keyOf runId) = none := fresh
  simp only [Adapter.materialize, fresh, BindingRegistry.bind, absent]
  rfl

/-- `materialize` of a run with a root: refresh its metadata, then update. -/
theorem materialize_bound {b : Binding} (held : a.registry.lookup (keyOf runId) = some b)
    (key : b.bindingKey = keyOf runId) (route : b.channel = channel) (root : b.root = rootOf runId) :
    (a.materialize runId (some vr) metadata tokenUsage delivery).2 =
      ({ a with registry := ⟨a.registry.bindings.set (keyOf runId)
          { b with metadata := b.metadata.refresh metadata }⟩ }.send
        (.ok (cardOp runId .updateRoot (buildView (fromVersioned vr) metadata tokenUsage)))
        delivery).2 := by
  have found : a.registry.bindings.get? (keyOf runId) = some b := held
  simp only [Adapter.materialize, held, BindingRegistry.updateMetadata, found,
    renderRootOp_bound key route root]

variable {vr metadata tokenUsage}

theorem bound_set {transport : SlackTransport} {d : Dict String Binding} {b : Binding}
    {rendered : Except Failure ProjectionOp} :
    Bound runId (Adapter.send ⟨transport, ⟨d.set (keyOf runId) b⟩⟩ rendered delivery).2 := by
  rw [Bound, send_registry, BindingRegistry.lookup, Dict.get?_set, if_pos rfl]
  rfl

variable (delivery metadata tokenUsage) in
/-- The bindings after `materialize` are still those of the run. -/
theorem own_materialize (own : Own runId a.registry.bindings) (current : Option VersionedRunState) :
    Own runId (a.materialize runId current metadata tokenUsage delivery).2.registry.bindings := by
  cases current with
  | none => exact own
  | some vr =>
    cases held : a.registry.lookup (keyOf runId) with
    | none =>
      rw [materialize_fresh vr metadata tokenUsage held, send_registry]
      exact own_set own rfl rfl rfl
    | some b =>
      obtain ⟨-, key, route, root⟩ := own _ _ held
      rw [materialize_bound vr metadata tokenUsage held key route root, send_registry]
      exact own_set own key route root

variable (delivery vr metadata tokenUsage) in
/-- What `materialize` of a run that is there does. -/
theorem materialize_effect (own : Own runId a.registry.bindings) :
    let view := buildView (fromVersioned vr) metadata tokenUsage
    let a' := (a.materialize runId (some vr) metadata tokenUsage delivery).2
    Bound runId a' ∧ a'.transport.ops = a.transport.ops ++ reached delivery
      (cardOp runId (if Bound runId a then .updateRoot else .createRoot) view) := by
  intro view a'
  cases held : a.registry.lookup (keyOf runId) with
  | none =>
    have fresh : ¬ Bound runId a := by simp [Bound, held]
    have made : a' = _ := materialize_fresh vr metadata tokenUsage held
    rw [made, if_neg fresh]
    exact ⟨bound_set, send_ops rfl⟩
  | some b =>
    have bound : Bound runId a := by simp [Bound, held]
    obtain ⟨-, key, route, root⟩ := own _ _ held
    have made : a' = _ := materialize_bound vr metadata tokenUsage held key route root
    rw [made, if_pos bound]
    exact ⟨bound_set, send_ops rfl⟩

variable (runId a delivery) in
/-- `apply_action` leaves every binding as it is. -/
theorem applyAction_registry (action : String) (expectedVersion : Int)
    (commandId newPlanVersion : Option String) (command : Command) :
    (a.applyAction runId action expectedVersion commandId newPlanVersion command delivery).2.registry =
      a.registry := by
  have replied : ∀ key binding kind text flag,
      (a.reply key binding kind text flag delivery).2.registry = a.registry := by
    intro key binding kind text flag
    cases binding with
    | none => rfl
    | some b => exact send_registry _
  rw [Adapter.applyAction]
  split
  · rfl
  · exact replied ..
  · split
    · split
      · exact replied ..
      · rfl
    · exact send_registry _

end Calls

/-! ## Control actions -/

/-- The action is a control action and the control plane accepts its intent. -/
def Accepted (runId action : String) (expectedVersion : Int)
    (commandId newPlanVersion : Option String) (command : Command) : Prop :=
  ∃ intent answer,
    mapAction action runId expectedVersion commandId newPlanVersion = .ok (.control intent) ∧
    command intent = .ok answer

section Actions
variable {runId : String} {a : Adapter} {delivery : Delivery} {action : String}
  {expectedVersion : Int} {commandId newPlanVersion : Option String} {command : Command}

/-- A reply is no root operation. -/
theorem reply_ops (key : String) (binding : Option Binding) (kind : HumanEventKind) (text : String)
    (flag : Bool) : ∃ extra, (a.reply key binding kind text flag delivery).2.transport.ops =
      a.transport.ops ++ extra ∧ ∀ op ∈ extra, op.op = .replyThread := by
  cases binding with
  | none => exact ⟨[], (List.append_nil _).symm, by simp⟩
  | some b =>
    cases made : renderThreadOp key channel b kind text flag with
    | error e =>
      refine ⟨[], ?_, by simp⟩
      rw [Adapter.reply, made, Adapter.send, List.append_nil]
    | ok op =>
      have replies : op.op = .replyThread := by
        obtain ⟨_, -, built⟩ := Checked.bind_ok.mp made
        cases built
        rfl
      refine ⟨reached delivery op, ?_, ?_⟩
      · rw [Adapter.reply]
        exact send_ops made
      · intro other member
        unfold reached at member
        split at member
        · cases member
        · rw [List.mem_singleton.mp member]
          exact replies

variable (a delivery) in
/-- An action that is not accepted adds replies only. -/
theorem applyAction_replies
    (declined : ¬ Accepted runId action expectedVersion commandId newPlanVersion command) :
    ∃ extra, (a.applyAction runId action expectedVersion commandId newPlanVersion command
        delivery).2.transport.ops = a.transport.ops ++ extra ∧ ∀ op ∈ extra, op.op = .replyThread := by
  have nothing : ∃ extra, a.transport.ops = a.transport.ops ++ extra ∧
      ∀ op ∈ extra, op.op = OpKind.replyThread := ⟨[], (List.append_nil _).symm, by simp⟩
  rw [Adapter.applyAction]
  split
  · exact nothing
  · exact reply_ops ..
  · next intent mapped =>
    split
    · split
      · exact reply_ops ..
      · exact nothing
    · next result after answered => exact absurd ⟨intent, _, mapped, answered⟩ declined

variable (delivery) in
/-- The root operation of an accepted action: an update of the root the run is bound to,
or a root of no identity. -/
theorem applyAction_accepted (own : Own runId a.registry.bindings)
    (accepted : Accepted runId action expectedVersion commandId newPlanVersion command) :
    ∃ view, (a.applyAction runId action expectedVersion commandId newPlanVersion command
        delivery).2.transport.ops = a.transport.ops ++ reached delivery
      (if Bound runId a then cardOp runId .updateRoot view
        else { cardOp runId .createRoot view with root := none }) := by
  obtain ⟨intent, ⟨result, after⟩, mapped, answered⟩ := accepted
  refine ⟨buildView (fromVersioned after) {} none, ?_⟩
  simp only [Adapter.applyAction, mapped, answered]
  cases held : a.registry.lookup (keyOf runId) with
  | none =>
    have fresh : ¬ Bound runId a := by simp [Bound, held]
    rw [if_neg fresh]
    exact send_ops rfl
  | some b =>
    have bound : Bound runId a := by simp [Bound, held]
    obtain ⟨-, key, route, root⟩ := own _ _ held
    rw [if_pos bound]
    exact send_ops (renderRootOp_bound key route root _)

end Actions

/-! ## The transport and the binding agree -/

/-- The run is bound exactly when its root was created, and nothing else was. -/
structure Agrees (runId : String) (a : Adapter) : Prop where
  own : Own runId a.registry.bindings
  created : (creates a.transport.ops).map (·.root) =
    if Bound runId a then [some (rootOf runId)] else []
  targeted : Targeted a.transport.ops

section Agreement
variable {runId : String} {a a' : Adapter} {delivery : Delivery}

theorem agrees_start (runId : String) : Agrees runId ⟨{}, {}⟩ where
  own := own_empty runId
  created := rfl
  targeted := targeted_nil

/-- The created root of a bound run is among the operations applied. -/
theorem Agrees.root_made (agrees : Agrees runId a) (bound : Bound runId a) :
    ∃ made ∈ a.transport.ops, made.op = .createRoot ∧ made.root = some (rootOf runId) := by
  have created := agrees.created
  rw [if_pos bound] at created
  have member : some (rootOf runId) ∈ (creates a.transport.ops).map (·.root) := by simp [created]
  obtain ⟨made, inside, root⟩ := List.mem_map.mp member
  obtain ⟨applied, kind⟩ := mem_creates.mp inside
  exact ⟨made, applied, kind, root⟩

/-- Operations that create nothing and update nothing. -/
theorem Agrees.replies (agrees : Agrees runId a) {extra : List ProjectionOp}
    (registry : a'.registry = a.registry) (ops : a'.transport.ops = a.transport.ops ++ extra)
    (replies : ∀ op ∈ extra, op.op = .replyThread) : Agrees runId a' where
  own := registry ▸ agrees.own
  created := by
    have none : creates extra = [] := by
      rw [creates, List.filter_eq_nil_iff]
      intro op member
      simp [replies op member]
    have same : Bound runId a' ↔ Bound runId a := by rw [Bound, registry, Bound]
    rw [ops, creates_append, none, List.append_nil, agrees.created]
    simp only [same]
  targeted := by
    rw [ops]
    clear ops registry
    induction extra using List.reverseRecOn with
    | nil => simpa using agrees.targeted
    | append_singleton before op ih =>
      rw [← List.append_assoc]
      refine targeted_append (ih fun other member => replies other (by simp [member])) ?_
      intro kind
      rw [replies op (by simp)] at kind
      cases kind

/-- One more card of a run that is bound. -/
theorem Agrees.updated (agrees : Agrees runId a) (bound : Bound runId a) (kept : Bound runId a')
    (own : Own runId a'.registry.bindings) {view : RunProjectionView}
    (ops : a'.transport.ops = a.transport.ops ++ reached delivery (cardOp runId .updateRoot view)) :
    Agrees runId a' := by
  have created := agrees.created
  rw [if_pos bound] at created
  by_cases refused : delivery = .refused
  · rw [reached, if_pos refused, List.append_nil] at ops
    exact ⟨own, by rw [ops, created, if_pos kept], ops ▸ agrees.targeted⟩
  · rw [reached, if_neg refused] at ops
    refine ⟨own, ?_, ?_⟩
    · have none : creates [cardOp runId .updateRoot view] = [] := creates_none (by simp [cardOp])
      rw [ops, creates_append, none, List.append_nil, created, if_pos kept]
    · rw [ops]
      exact targeted_append agrees.targeted fun _ => agrees.root_made bound

/-- The first card of a run, where it reaches the transport. -/
theorem Agrees.rooted (agrees : Agrees runId a) (fresh : ¬ Bound runId a) (bound : Bound runId a')
    (own : Own runId a'.registry.bindings) (reaches : delivery ≠ .refused) {view : RunProjectionView}
    (ops : a'.transport.ops = a.transport.ops ++ reached delivery (cardOp runId .createRoot view)) :
    Agrees runId a' := by
  have created := agrees.created
  rw [if_neg fresh, List.map_eq_nil_iff] at created
  rw [reached, if_neg reaches] at ops
  refine ⟨own, ?_, ?_⟩
  · rw [ops, creates_append, created, creates_of (by rfl), if_pos bound]
    rfl
  · rw [ops]
    refine targeted_append agrees.targeted fun kind => ?_
    cases kind

end Agreement

/-! ## Snapshots -/

theorem lookup_snapshot (r : BindingRegistry) (k : String) :
    r.snapshot.get? k = r.bindings.get? k := by
  apply Option.ext
  intro b
  rw [Dict.get?_eq_some, Dict.get?_eq_some]
  exact Sorted.mem_sortedBy

theorem lookup_fromSnapshot (d : Dict String Binding) (k : String) :
    (BindingRegistry.fromSnapshot d).bindings.get? k = d.get? k := by
  rw [BindingRegistry.fromSnapshot, Dict.get?_update_entries _ d.distinct, Dict.get?_empty,
    Option.or_none]
  rfl

theorem Own.congr {runId : String} {d e : Dict String Binding} (own : Own runId d)
    (same : ∀ k, e.get? k = d.get? k) : Own runId e := by
  intro k b held
  rw [same] at held
  exact own k b held

/-! ## Steps of a host -/

/-- The last checkpoint knows the root of the run. -/
def Remembered (w : World) : Prop :=
  ∃ state, w.saved = some state ∧ (state.bindingSnapshot.get? (keyOf w.config.runId)).isSome

/-- The run has a root card, as far as its host knows. -/
def Rooted (w : World) : Prop := Bound w.config.runId w.adapter

/-- The steps after which a host and its transport still agree: the card that would create
the root is not refused by the transport, a control action is accepted only once the run has
a root (or its card is refused), and a crash loses no root. -/
def Orderly (w : World) : Operation → Prop
  | .materialize current _ delivery => current ≠ none → Rooted w ∨ delivery ≠ .refused
  | .controllerAction action expectedVersion commandId newPlanVersion command delivery =>
    Accepted w.config.runId action expectedVersion commandId newPlanVersion command →
      Rooted w ∨ delivery = .refused
  | .crash => Rooted w → Remembered w
  | .rotate .. | .checkpoint => True

structure Consistent (w : World) : Prop where
  contract : w.host.config.runId = w.config.runId
  state : w.host.state.config.runId = w.config.runId
  agrees : Agrees w.config.runId w.adapter
  /-- A checkpoint is of this run and knows no root but the one the host knows. -/
  saved : ∀ state, w.saved = some state → state.config.runId = w.config.runId ∧
    Own w.config.runId state.bindingSnapshot
  known : Remembered w → Rooted w

theorem Consistent.safe {w : World} (consistent : Consistent w) : Safe w where
  single := by
    have created := congrArg List.length consistent.agrees.created
    rw [List.length_map] at created
    change (creates w.adapter.transport.ops).length ≤ 1
    rw [created]
    split <;> simp
  targeted := consistent.agrees.targeted

theorem consistent_start (config : HostConfig) : Consistent (start config) where
  contract := rfl
  state := rfl
  agrees := agrees_start config.runId
  saved := by
    intro state held
    cases held
  known := by
    rintro ⟨state, held, -⟩
    cases held

/-- A step that changes neither the contract nor the checkpoint. -/
theorem Consistent.after {w w' : World} (consistent : Consistent w) (config : w'.config = w.config)
    (host : w'.host.config = w.host.config) (state : w'.host.state.config = w.host.state.config)
    (saved : w'.saved = w.saved) (agrees : Agrees w.config.runId w'.adapter)
    (kept : Rooted w → Bound w.config.runId w'.adapter) : Consistent w' where
  contract := by rw [host, config, consistent.contract]
  state := by rw [state, config, consistent.state]
  agrees := config ▸ agrees
  saved := by
    rw [config, saved]
    exact consistent.saved
  known := by
    intro remembered
    rw [Remembered, config, saved] at remembered
    rw [Rooted, config]
    exact kept (consistent.known remembered)

section Steps
variable {w : World} {current : Option VersionedRunState} {metadata : Metadata} {delivery : Delivery}

variable (current delivery) in
theorem project_adapter (contract : w.host.config.runId = w.config.runId) :
    (w.project current delivery).adapter =
      (w.adapter.materialize w.config.runId current w.host.state.metadata none delivery).2 := by
  rw [← contract]
  unfold World.project
  dsimp only [World.adapter]
  split <;> rfl

variable (w current delivery) in
theorem project_frame : (w.project current delivery).config = w.config ∧
    (w.project current delivery).host.config = w.host.config ∧
    (w.project current delivery).host.state.config = w.host.state.config ∧
    (w.project current delivery).saved = w.saved := by
  unfold World.project
  dsimp only
  split <;> exact ⟨rfl, rfl, rfl, rfl⟩

/-- New metadata is not part of what has to agree. -/
theorem Consistent.withMetadata (consistent : Consistent w) (metadata : Metadata) :
    Consistent { w with host := w.host.withMetadata metadata } :=
  consistent.after rfl rfl rfl rfl consistent.agrees id

theorem Consistent.project (consistent : Consistent w)
    (orderly : current ≠ none → Rooted w ∨ delivery ≠ .refused) :
    Consistent (w.project current delivery) := by
  obtain ⟨config, host, state, saved⟩ := project_frame w current delivery
  have adapter := project_adapter current delivery consistent.contract
  have agrees := consistent.agrees
  cases current with
  | none => exact consistent.after config host state saved (adapter ▸ agrees) fun bound => adapter ▸ bound
  | some vr =>
    have own := own_materialize delivery w.host.state.metadata none agrees.own (some vr)
    have effect := materialize_effect delivery vr w.host.state.metadata none agrees.own
    rw [← adapter] at own effect
    obtain ⟨bound, ops⟩ := effect
    refine consistent.after config host state saved ?_ fun _ => bound
    by_cases before : Bound w.config.runId w.adapter
    · rw [if_pos before] at ops
      exact agrees.updated before bound own ops
    · have reaches := (orderly (by simp)).resolve_left before
      rw [if_neg before] at ops
      exact agrees.rooted before bound own reaches ops

variable (delivery) in
theorem controllerAction_adapter (contract : w.host.config.runId = w.config.runId) (action : String)
    (expectedVersion : Int) (commandId newPlanVersion : Option String) (command : Command) :
    (w.controllerAction action expectedVersion commandId newPlanVersion command delivery).adapter =
      (w.adapter.applyAction w.config.runId action expectedVersion commandId newPlanVersion command
        delivery).2 := by
  rw [← contract]
  rfl

theorem Consistent.controllerAction (consistent : Consistent w) {action : String}
    {expectedVersion : Int} {commandId newPlanVersion : Option String} {command : Command}
    (orderly : Accepted w.config.runId action expectedVersion commandId newPlanVersion command →
      Rooted w ∨ delivery = .refused) :
    Consistent (w.controllerAction action expectedVersion commandId newPlanVersion command
      delivery) := by
  have agrees := consistent.agrees
  have registry := applyAction_registry w.config.runId w.adapter delivery action expectedVersion commandId newPlanVersion command
  have adapter := controllerAction_adapter delivery consistent.contract action expectedVersion commandId
    newPlanVersion command
  have kept : Bound w.config.runId w.adapter → Bound w.config.runId
      (w.controllerAction action expectedVersion commandId newPlanVersion command delivery).adapter := by
    intro bound
    rw [Bound, adapter, registry]
    exact bound
  refine consistent.after rfl rfl rfl rfl ?_ kept
  rw [adapter] at kept ⊢
  by_cases accepted : Accepted w.config.runId action expectedVersion commandId newPlanVersion command
  · obtain ⟨view, ops⟩ := applyAction_accepted delivery agrees.own accepted
    by_cases bound : Bound w.config.runId w.adapter
    · rw [if_pos bound] at ops
      have own := agrees.own
      rw [← registry] at own
      exact agrees.updated bound (kept bound) own ops
    · have refused := (orderly accepted).resolve_left bound
      rw [reached, if_pos refused] at ops
      exact agrees.replies registry ops (by simp)
  · obtain ⟨extra, ops, replies⟩ := applyAction_replies w.adapter delivery accepted
    exact agrees.replies registry ops replies

theorem Consistent.checkpoint (consistent : Consistent w) : Consistent w.checkpoint where
  contract := consistent.contract
  state := consistent.state
  agrees := consistent.agrees
  saved := by
    intro state held
    cases held
    exact ⟨consistent.state, consistent.agrees.own.congr (lookup_snapshot w.host.registry)⟩
  known := by
    rintro ⟨state, held, root⟩
    cases held
    rw [lookup_snapshot] at root
    exact root

theorem Consistent.crash (consistent : Consistent w) (orderly : Rooted w → Remembered w) :
    Consistent w.crash := by
  obtain ⟨config, transport, host, saved⟩ := w
  have agrees := consistent.agrees
  cases saved with
  | none =>
    have unknown : ¬ Remembered ⟨config, transport, host, none⟩ := by
      rintro ⟨state, held, -⟩
      cases held
    have fresh : ¬ Bound config.runId ⟨transport, host.registry⟩ :=
      fun bound => unknown (orderly bound)
    have created : (creates transport.ops).map (·.root) = [] := agrees.created.trans (if_neg fresh)
    exact ⟨rfl, rfl, ⟨own_empty _, created, agrees.targeted⟩, consistent.saved,
      fun known => absurd known unknown⟩
  | some state =>
    obtain ⟨contract, own⟩ := consistent.saved state rfl
    have restored : Bound config.runId ⟨transport, .fromSnapshot state.bindingSnapshot⟩ ↔
        Remembered ⟨config, transport, host, some state⟩ := by
      rw [Bound, BindingRegistry.lookup, lookup_fromSnapshot]
      simp [Remembered]
    have same : Bound config.runId ⟨transport, .fromSnapshot state.bindingSnapshot⟩ ↔
        Bound config.runId ⟨transport, host.registry⟩ :=
      restored.trans ⟨consistent.known, orderly⟩
    have created : (creates transport.ops).map (·.root) = _ :=
      agrees.created.trans (if_congr same.symm rfl rfl)
    exact ⟨contract, contract,
      ⟨own.congr (lookup_fromSnapshot state.bindingSnapshot), created, agrees.targeted⟩,
      consistent.saved, restored.mpr⟩

/-- An orderly step keeps the agreement. -/
theorem consistent_step (consistent : Consistent w) {operation : Operation}
    (orderly : Orderly w operation) : Consistent (step w operation) := by
  cases operation with
  | materialize current metadata delivery =>
    rw [step, World.materialize]
    by_cases named : metadata.sessionId ≠ none
    · rw [if_pos named]
      exact (consistent.withMetadata metadata).project orderly
    · rw [if_neg named]
      exact consistent.project orderly
  | rotate current metadata delivery =>
    have renewed := consistent.withMetadata metadata
    rw [step, World.rotate]
    split
    · next has =>
      -- the registry has no key but the one of the run, so its root is bound
      refine renewed.project fun _ => .inl ?_
      obtain ⟨b, held⟩ := Option.isSome_iff_exists.mp has
      have key := (renewed.agrees.own _ b held).1
      rw [Rooted, Bound, ← key]
      exact has
    · exact renewed
  | controllerAction action expectedVersion commandId newPlanVersion command delivery =>
    exact consistent.controllerAction orderly
  | checkpoint => exact consistent.checkpoint
  | crash => exact consistent.crash orderly

/-! ## What a step that is not orderly does -/

/-- The host and its transport disagree: a root was created that the host does not know, or
the host knows one that was not created. -/
structure Astray (w : World) : Prop where
  contract : w.host.config.runId = w.config.runId
  own : Own w.config.runId w.adapter.registry.bindings
  apart : Bound w.config.runId w.adapter ↔ creates w.transport.ops = []

/-- The next card that is delivered shows the disagreement. -/
theorem Astray.project (astray : Astray w) (vr : VersionedRunState) :
    ¬ Safe (w.project (some vr) .delivered) := by
  intro safe
  have effect := materialize_effect .delivered vr w.host.state.metadata none astray.own
  rw [← project_adapter (some vr) .delivered astray.contract] at effect
  obtain ⟨-, ops⟩ := effect
  change (w.project (some vr) .delivered).transport.ops = w.transport.ops ++ _ at ops
  by_cases bound : Bound w.config.runId w.adapter
  · rw [if_pos bound] at ops
    obtain ⟨made, before, kind, -⟩ := safe.targeted _ _ [] ops rfl
    have member : made ∈ creates w.transport.ops := mem_creates.mpr ⟨before, kind⟩
    rw [astray.apart.mp bound] at member
    cases member
  · have some : creates w.transport.ops ≠ [] := fun empty => bound (astray.apart.mpr empty)
    have first := List.length_pos_iff.mpr some
    have single := safe.single
    rw [if_neg bound] at ops
    rw [ops, creates_append, List.length_append] at single
    have second : (creates (reached .delivered (cardOp w.config.runId .createRoot
      (buildView (fromVersioned vr) w.host.state.metadata none)))).length = 1 := rfl
    omega

theorem Astray.withMetadata (astray : Astray w) (metadata : Metadata) :
    Astray { w with host := w.host.withMetadata metadata } :=
  ⟨astray.contract, astray.own, astray.apart⟩

theorem Astray.shows (astray : Astray w) (vr : VersionedRunState) (metadata : Metadata) :
    ¬ Safe (step w (.materialize (some vr) metadata .delivered)) := by
  rw [step, World.materialize]
  by_cases named : metadata.sessionId ≠ none
  · rw [if_pos named]
    exact (astray.withMetadata metadata).project vr
  · rw [if_neg named]
    exact astray.project vr

theorem Agrees.creates_iff {runId : String} {a : Adapter} (agrees : Agrees runId a) :
    Bound runId a ↔ creates a.transport.ops ≠ [] := by
  have created := agrees.created
  constructor
  · rintro bound empty
    rw [if_pos bound, empty] at created
    cases created
  · intro some
    by_contra fresh
    rw [if_neg fresh, List.map_eq_nil_iff] at created
    exact some created

/-- A first card that is refused leaves a binding without a root. -/
theorem astray_refused (consistent : Consistent w) (vr : VersionedRunState)
    (fresh : ¬ Rooted w) : Astray (w.project (some vr) .refused) := by
  obtain ⟨config, host, -, -⟩ := project_frame w (some vr) .refused
  have agrees := consistent.agrees
  have adapter := project_adapter (some vr) .refused consistent.contract
  have own := own_materialize .refused w.host.state.metadata none agrees.own (some vr)
  have effect := materialize_effect .refused vr w.host.state.metadata none agrees.own
  rw [← adapter] at own effect
  obtain ⟨bound, ops⟩ := effect
  have none : creates w.transport.ops = [] := by
    by_contra some
    exact fresh (agrees.creates_iff.mpr some)
  refine ⟨by rw [host, config, consistent.contract], config ▸ own, ?_⟩
  rw [config]
  refine ⟨fun _ => ?_, fun _ => bound⟩
  change creates (w.project (some vr) .refused).adapter.transport.ops = []
  rw [ops, reached, if_pos rfl, List.append_nil]
  exact none

/-- An accepted action of a run without a root leaves a root without a binding. -/
theorem astray_orphan (consistent : Consistent w) {action : String} {expectedVersion : Int}
    {commandId newPlanVersion : Option String} {command : Command}
    (accepted : Accepted w.config.runId action expectedVersion commandId newPlanVersion command)
    (fresh : ¬ Rooted w) (reaches : delivery ≠ .refused) :
    Astray (w.controllerAction action expectedVersion commandId newPlanVersion command delivery) := by
  have agrees := consistent.agrees
  have registry := applyAction_registry w.config.runId w.adapter delivery action expectedVersion commandId newPlanVersion command
  have adapter := controllerAction_adapter delivery consistent.contract action expectedVersion commandId
    newPlanVersion command
  obtain ⟨view, ops⟩ := applyAction_accepted delivery agrees.own accepted
  have unknown : ¬ Bound w.config.runId w.adapter := fresh
  rw [if_neg unknown, reached, if_neg reaches] at ops
  rw [← adapter] at registry ops
  have unbound : ¬ Bound w.config.runId
      (w.controllerAction action expectedVersion commandId newPlanVersion command delivery).adapter := by
    rw [Bound, registry]
    exact fresh
  have own := agrees.own
  rw [← registry] at own
  refine ⟨consistent.contract, own, fun bound => absurd bound unbound, fun empty => ?_⟩
  have applied : ∀ v : World, v.transport = v.adapter.transport := fun _ => rfl
  rw [applied, ops, creates_append, creates_of rfl] at empty
  simp at empty

/-- A crash that forgets the root leaves a root the host does not know. -/
theorem astray_crash (consistent : Consistent w) (bound : Rooted w)
    (forgotten : ¬ Remembered w) : Astray w.crash := by
  obtain ⟨config, transport, host, saved⟩ := w
  have some : creates transport.ops ≠ [] := consistent.agrees.creates_iff.mp bound
  cases saved with
  | none =>
    refine ⟨rfl, own_empty _, fun held => ?_, fun empty => absurd empty some⟩
    cases held
  | some state =>
    obtain ⟨contract, own⟩ := consistent.saved state rfl
    have unbound : ¬ Bound config.runId ⟨transport, .fromSnapshot state.bindingSnapshot⟩ := by
      rw [Bound, BindingRegistry.lookup, lookup_fromSnapshot]
      intro held
      exact forgotten ⟨state, rfl, held⟩
    exact ⟨contract, own.congr (lookup_fromSnapshot state.bindingSnapshot),
      fun held => absurd held unbound, fun empty => absurd empty some⟩

/-- After a step that is not orderly the host and its transport disagree. -/
theorem disorder_astray (consistent : Consistent w) {operation : Operation}
    (disorder : ¬ Orderly w operation) : Astray (step w operation) := by
  cases operation with
  | materialize current metadata delivery =>
    simp only [Orderly, not_forall, not_or, not_not] at disorder
    obtain ⟨there, fresh, rfl⟩ := disorder
    obtain ⟨vr, rfl⟩ := Option.ne_none_iff_exists'.mp there
    rw [step, World.materialize]
    by_cases named : metadata.sessionId ≠ none
    · rw [if_pos named]
      exact astray_refused (consistent.withMetadata metadata) vr fresh
    · rw [if_neg named]
      exact astray_refused consistent vr fresh
  | rotate current metadata delivery => exact absurd trivial disorder
  | controllerAction action expectedVersion commandId newPlanVersion command delivery =>
    simp only [Orderly, not_forall, not_or] at disorder
    obtain ⟨accepted, fresh, reaches⟩ := disorder
    exact astray_orphan consistent accepted fresh reaches
  | checkpoint => exact absurd trivial disorder
  | crash =>
    simp only [Orderly, not_forall] at disorder
    obtain ⟨bound, forgotten⟩ := disorder
    exact astray_crash consistent bound forgotten

end Steps

/-! ## Runs -/

/-- In every state of an orderly run at most one root was created and only created roots were
updated; a run that is not orderly has a beginning after which one more delivered card is a
second root or updates a root that was never created. -/
theorem orderly_single (config : HostConfig) (operations : List Operation) :
    (Along step Orderly (start config) operations → Always step Safe (start config) operations) ∧
    (¬ Along step Orderly (start config) operations →
      ∃ before after, operations = before ++ after ∧ ∀ vr metadata, ¬ Safe
        (run step (start config) (before ++ [.materialize (some vr) metadata .delivered]))) := by
  have kept : ∀ w operation, Consistent w → Orderly w operation → Consistent (step w operation) :=
    fun w operation consistent orderly => consistent_step consistent orderly
  constructor
  · intro orderly
    exact Runs.always_of_invariant kept (fun w consistent => consistent.safe)
      (consistent_start config) orderly
  · intro disorderly
    obtain ⟨before, operation, after, split, orderly, disorder⟩ :=
      Runs.exists_first_refused disorderly
    have consistent := @Runs.run_invariant _ _ step Orderly Consistent kept _ _
      (consistent_start config) orderly
    refine ⟨before ++ [operation], after, by rw [split, List.append_assoc]; rfl, ?_⟩
    intro vr metadata
    rw [Runs.run_append, Runs.run_append]
    exact (disorder_astray consistent disorder).shows vr metadata

/-! ## Samples -/

def sampleConfig : HostConfig := { runId := "run-1", taskId := "task-1" }

/-- A run at a version, without nodes. -/
def sampleRun (status : Runtime.RunStatus) (version : Int) : VersionedRunState where
  state := { runId := ⟨"run-1", by decide⟩, status := status }
  version := version
  metadata := { journalPosition := 0 }

/-- The card of the running run, delivered or not. -/
def card (delivery : Delivery) : Operation :=
  .materialize (some (sampleRun .running 1)) {} delivery

/-- A pause that the control plane accepts. -/
def pause (delivery : Delivery) : Operation :=
  .controllerAction "PAUSE" 1 none none
    (fun intent => .ok (⟨intent.intent, intent.runId, true, 2, .paused, none, none⟩,
      sampleRun .paused 2)) delivery

/-- A first card, a checkpoint, a restart and a pause. -/
theorem orderly_restart : Always step Safe (start sampleConfig)
    [card .delivered, .checkpoint, .crash, pause .delivered, card .lost] := by
  refine (orderly_single sampleConfig _).1 ⟨fun _ => .inr (by decide), trivial, fun _ => ?_,
    fun _ => .inl ?_, fun _ => .inr (by decide), trivial⟩
  · exact ⟨_, rfl, by decide⟩
  · change Bound _ _
    decide

/-- A run that is paused before it has a card, one whose first card is refused, and one
whose host restarts from the checkpoint before its first card. -/
theorem roots_diverge :
    ¬ Always step Safe (start sampleConfig) [pause .delivered, card .delivered] ∧
    ¬ Always step Safe (start sampleConfig) [card .refused, card .delivered] ∧
    ¬ Always step Safe (start sampleConfig)
      [.checkpoint, card .delivered, .crash, card .delivered] := by
  have last : ∀ operations, Always step Safe (start sampleConfig) operations →
      Safe (run step (start sampleConfig) operations) :=
    fun operations always => Runs.always_iff.mp always operations [] (List.append_nil _).symm
  refine ⟨fun always => ?_, fun always => ?_, fun always => ?_⟩
  · have single := (last _ always).single
    revert single
    decide
  · obtain ⟨made, member, -⟩ := (last _ always).targeted [] _ [] rfl rfl
    cases member
  · have single := (last _ always).single
    revert single
    decide

end DwSuperApps.Guarantees.SingleRoot
