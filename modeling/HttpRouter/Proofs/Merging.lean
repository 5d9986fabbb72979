import HttpRouter.Proofs.Attachments

/-!
Attachments merged one after the other. Merging is associative and the empty attachment is neutral
on both sides. After a run of updates the peer and the target are the last ones given, and the
parameters have for each name the last value given. Updates that have no field in common may change
places, and an update that is made twice counts once.
-/

namespace HttpRouter
namespace Meta

/-! ### The laws of merging -/

@[simp] theorem none_mergeParams (later : Option Params) : mergeParams none later = later := by
  cases later <;> rfl

@[simp] theorem mergeParams_none (earlier : Option Params) :
    mergeParams earlier none = earlier := by
  cases earlier <;> rfl

theorem mergeParams_self (params : Option Params) : mergeParams params params = params := by
  cases params with
  | none => rfl
  | some held => exact congrArg some held.extend_self

theorem mergeParams_assoc (first second third : Option Params) :
    mergeParams (mergeParams first second) third =
      mergeParams first (mergeParams second third) := by
  cases first <;> cases second <;> cases third <;> simp [mergeParams, Params.extend_assoc]

theorem empty_extend (given : Meta) : empty.extend given = given := by
  simp [extend, empty]

theorem extend_empty (given : Meta) : given.extend empty = given := by
  simp [extend, empty]

theorem extend_self (given : Meta) : given.extend given = given := by
  simp [extend, mergeParams_self]

theorem extend_assoc (first second third : Meta) :
    (first.extend second).extend third = first.extend (second.extend third) := by
  simp only [extend, Option.or_assoc, mergeParams_assoc]

/-- No field is given by both attachments. -/
structure Apart (one other : Meta) : Prop where
  peer : one.peer = none ∨ other.peer = none
  params : one.params = none ∨ other.params = none
  target : one.target = none ∨ other.target = none

theorem lone_or {Value : Type} (one other : Option Value) (lone : one = none ∨ other = none) :
    one.or other = other.or one := by
  rcases lone with rfl | rfl <;> simp

theorem lone_mergeParams (one other : Option Params) (lone : one = none ∨ other = none) :
    mergeParams one other = mergeParams other one := by
  rcases lone with rfl | rfl <;> simp

theorem extend_comm (one other : Meta) (apart : one.Apart other) :
    one.extend other = other.extend one := by
  rw [extend, extend, lone_or _ _ apart.peer, lone_mergeParams _ _ apart.params,
    lone_or _ _ apart.target]

/-! ### One update -/

theorem update_twice (attached : Option Meta) (later : Meta) :
    update (update attached later) later = update attached later := by
  cases attached with
  | none => exact congrArg some later.extend_self
  | some earlier =>
      apply congrArg some
      rw [extend_assoc, extend_self]

theorem update_swapped (attached : Option Meta) (one other : Meta) (apart : one.Apart other) :
    update (update attached one) other = update (update attached other) one := by
  cases attached with
  | none => exact congrArg some (one.extend_comm other apart)
  | some earlier =>
      apply congrArg some
      rw [extend_assoc, one.extend_comm other apart, ← extend_assoc]

theorem update_noParams (attached : Option Meta) (later : Meta) :
    (update attached later).bind params = none ↔
      attached.bind params = none ∧ later.params = none := by
  cases attached with
  | none => simp [update]
  | some earlier =>
      cases held : earlier.params <;> cases given : later.params <;>
        simp [update, extend, mergeParams, held, given]

/-! ### A run of updates -/

theorem run_absent (updates : List Meta) (attached : Option Meta) :
    updates.foldl update attached = none ↔ attached = none ∧ updates = [] := by
  induction updates generalizing attached with
  | nil => simp
  | cons later rest ih =>
      rw [List.foldl_cons, ih]
      cases attached <;> simp [update]

theorem run_noParams (updates : List Meta) (attached : Option Meta) :
    (updates.foldl update attached).bind params = none ↔
      attached.bind params = none ∧ ∀ later ∈ updates, later.params = none := by
  induction updates generalizing attached with
  | nil => simp
  | cons later rest ih =>
      rw [List.foldl_cons, ih, update_noParams, List.forall_mem_cons, and_assoc]

/-- What a run of updates leaves of what was attached, field by field. -/
structure Merges (attached : Option Meta) (updates : List Meta) (merged : Option Meta) : Prop where
  absent : merged = none ↔ attached = none ∧ updates = []
  peer : merged.bind Meta.peer =
    (updates.filterMap Meta.peer).getLast?.or (attached.bind Meta.peer)
  target : merged.bind Meta.target =
    (updates.filterMap Meta.target).getLast?.or (attached.bind Meta.target)
  noParams : merged.bind Meta.params = none ↔
    attached.bind Meta.params = none ∧ ∀ later ∈ updates, later.params = none
  value : ∀ params name, merged.bind Meta.params = some params →
    params.get? name = (updates.filterMap fun later => later.param name).getLast?.or
      (attached.bind fun earlier => earlier.param name)

theorem run_merges (attached : Option Meta) (updates : List Meta) :
    Merges attached updates (updates.foldl update attached) := by
  constructor
  · exact run_absent updates attached
  · exact foldl_last update (Option.bind · Meta.peer) Meta.peer update_peer updates attached
  · exact foldl_last update (Option.bind · Meta.target) Meta.target update_target updates attached
  · exact run_noParams updates attached
  · intro params name held
    have read := foldl_last update (Option.bind · fun given => given.param name)
      (fun later => later.param name) (fun attached later => update_param attached later name)
      updates attached
    rw [← read]
    obtain ⟨merged, present, given⟩ := Option.bind_eq_some_iff.mp held
    rw [present, Option.bind_some, param, given, Option.bind_some]

end Meta

theorem Request.attach_run (request : Request) (updates : List Meta) :
    updates.foldl Request.attach request =
      { request with attached := updates.foldl Meta.update request.attached } := by
  induction updates generalizing request with
  | nil => rfl
  | cons later rest ih => exact ih (request.attach later)

namespace Meta

/-- Merging is a monoid, and a run of updates, made to a request that carries nothing or anything,
changes what is attached and nothing else. Each field is then the last one given, in the parameters
name by name. Updates without a common field may change places anywhere in the run, and an update
may be repeated. -/
theorem updates_merge_fields :
    (∀ first second third : Meta,
      (first.extend second).extend third = first.extend (second.extend third)) ∧
    (∀ given : Meta, empty.extend given = given ∧ given.extend empty = given) ∧
    (∀ (request : Request) (updates : List Meta),
      updates.foldl Request.attach request =
        { request with attached := updates.foldl update request.attached }) ∧
    ∀ (attached : Option Meta) (updates : List Meta),
      let merged := updates.foldl update attached
      Merges attached updates merged ∧
      (∀ front one other back, updates = front ++ one :: other :: back → one.Apart other →
        (front ++ other :: one :: back).foldl update attached = merged) ∧
      ∀ front later back, updates = front ++ later :: back →
        (front ++ later :: later :: back).foldl update attached = merged := by
  refine ⟨extend_assoc, fun given => ⟨given.empty_extend, given.extend_empty⟩,
    Request.attach_run, ?_⟩
  intro attached updates
  refine ⟨run_merges attached updates, ?_, ?_⟩
  · rintro front one other back rfl apart
    simp only [List.foldl_append, List.foldl_cons]
    rw [update_swapped _ one other apart]
  · rintro front later back rfl
    simp only [List.foldl_append, List.foldl_cons]
    rw [update_twice]

-- One field is there before and is given twice more, the others once, the target out of its place.
theorem fields_given_out_of_order :
    let attached := some (ofParams (Params.ofList [("id", "0"), ("kept", "0")]))
    let first := ofParams (Params.ofList [("id", "1"), ("page", "3")])
    let aimed := ofTarget ⟨"/users/1", Params.empty, ""⟩
    let peer := ofPeer ⟨.v4 10 0 0 1, 4000⟩
    let last := ofParams (Params.ofList [("id", "2")])
    let merged := [first, aimed, peer, last].foldl update attached
    merged.bind Meta.peer = peer.peer ∧ merged.bind Meta.target = aimed.target ∧
      (∃ params, merged.bind Meta.params = some params ∧ params.get? "id" = some "2" ∧
        params.get? "page" = some "3" ∧ params.get? "kept" = some "0" ∧
        params.get? "lost" = none) ∧
      aimed.Apart peer ∧ [first, peer, aimed, last].foldl update attached = merged ∧
      [first, aimed, peer, last, last].foldl update attached = merged := by
  intro attached first aimed peer last merged
  obtain ⟨merges, swapped, repeated⟩ :=
    updates_merge_fields.2.2.2 attached [first, aimed, peer, last]
  have apart : aimed.Apart peer := ⟨.inl rfl, .inl rfl, .inr rfl⟩
  have someParams : merged.bind Meta.params ≠ none := by
    intro absent
    cases (merges.noParams.mp absent).1
  obtain ⟨params, held⟩ := Option.ne_none_iff_exists'.mp someParams
  refine ⟨merges.peer, merges.target, ⟨params, held, ?_, ?_, ?_, ?_⟩, apart, ?_, ?_⟩
  · exact (merges.value params "id" held).trans (by decide)
  · exact (merges.value params "page" held).trans (by decide)
  · exact (merges.value params "kept" held).trans (by decide)
  · exact (merges.value params "lost" held).trans (by decide)
  · exact swapped [first] aimed peer [last] rfl apart
  · exact repeated [first, aimed, peer] last [] rfl

end Meta
end HttpRouter
