import HttpRouter.Proofs.Decision
import HttpRouter.Proofs.NamedValues

/-!
What is attached to a request, and what is read off it. Parameters are merged name by name and the
last write of a name decides; a peer and a target are replaced. Once a target is attached, whatever
a handler reads comes from the attachment, so a handler may change the rest of a request in any way
and the next one still reads the same.
-/

namespace HttpRouter
variable {ν : Type}

namespace Meta

def param (given : Meta) (name : String) : Option String :=
  given.params.bind fun params => params.get? name

/-! ### One update

Of each field the update decides if it has one. Parameters are decided name by name. -/

theorem update_peer (attached : Option Meta) (later : Meta) :
    (update attached later).bind peer = later.peer.or (attached.bind peer) := by
  cases attached <;> simp [update, extend]

theorem update_target (attached : Option Meta) (later : Meta) :
    (update attached later).bind target = later.target.or (attached.bind target) := by
  cases attached <;> simp [update, extend]

theorem extend_param (earlier later : Meta) (name : String) :
    (earlier.extend later).param name = (later.param name).or (earlier.param name) := by
  cases held : earlier.params <;> cases given : later.params <;>
    simp [param, extend, mergeParams, held, given, Params.get?_extend]

theorem update_param (attached : Option Meta) (later : Meta) (name : String) :
    (update attached later).bind (fun given => given.param name) =
      (later.param name).or (attached.bind fun given => given.param name) := by
  cases attached with
  | none => simp [update]
  | some earlier => exact extend_param earlier later name

end Meta

namespace Request

/-- What a handler reads of two requests is the same. -/
structure ReadsAlike (request other : Request) : Prop where
  path : other.path = request.path
  query : other.query = request.query
  search : other.search = request.search
  params : other.params = request.params
  peer : other.peer = request.peer

theorem path_aimed (request : Request) (target : Target) (aimed : request.target = some target) :
    request.path = target.path := by
  simp only [path, aimed]

theorem attached_reads (request other : Request) (target : Target)
    (aimed : request.target = some target) (same : other.attached = request.attached) :
    request.ReadsAlike other := by
  have targets : other.target = request.target := by rw [Request.target, same, Request.target]
  constructor
  · rw [path_aimed other target (targets.trans aimed), path_aimed request target aimed]
  · rw [query, targets, query]
  · rw [search, targets, search]
  · rw [params, same, params]
  · rw [peer, same, peer]

/-! What an attachment has is read in the place of what the request carried. -/

theorem target_attach (request : Request) (later : Meta) :
    (request.attach later).target = later.target.or request.target :=
  Meta.update_target request.attached later

theorem peer_attach (request : Request) (later : Meta) :
    (request.attach later).peer = later.peer.or request.peer :=
  Meta.update_peer request.attached later

theorem param_attached (request : Request) (name : String) :
    request.param name = request.attached.bind fun given => given.param name := by
  rw [param, params]
  cases request.attached with
  | none => exact Params.get?_empty name
  | some given => cases held : given.params <;> simp [Meta.param, held]

theorem param_attach (request : Request) (later : Meta) (name : String) :
    (request.attach later).param name = (later.param name).or (request.param name) := by
  rw [param_attached, param_attached]
  exact Meta.update_param request.attached later name

theorem peer_fromPeer (request : Request) (peer : Address) :
    (request.fromPeer peer).peer = some peer := by
  rw [fromPeer, peer_attach]
  rfl

theorem param_fromPeer (request : Request) (peer : Address) (name : String) :
    (request.fromPeer peer).param name = request.param name := by
  rw [fromPeer, param_attach]
  rfl

end Request

namespace Router

theorem ready_target (request : Request) (captured : Params) :
    (ready request captured).target = some (Target.ofUri request.uri) := by
  rw [← aim_captured, Request.captured, Request.target_attach, Request.aim, Request.target_attach]
  rfl

theorem ready_peer (request : Request) (captured : Params) :
    (ready request captured).peer = request.peer := by
  rw [← aim_captured, Request.captured, Request.peer_attach, Request.aim, Request.peer_attach]
  rfl

theorem ready_param (request : Request) (captured : Params) (name : String) :
    (ready request captured).param name = (captured.get? name).or (request.param name) := by
  rw [← aim_captured, Request.captured, Request.param_attach, Request.aim, Request.param_attach]
  rfl

end Router

/-! ### Attachments along a chain -/

/-- If the call hands on a request, then with the attachment that it was given. -/
def Call.Keeps (call : Call ν) : Prop :=
  ∀ nextRequest nextResponse, call.reply.outcome = .proceed nextRequest nextResponse →
    nextRequest.attached = call.request.attached

/-- Nobody before a position changes what is attached. -/
def KeptTo (calls : List (Call ν)) (position : Nat) : Prop :=
  ∀ before call, before < position → calls[before]? = some call → call.Keeps

theorem Threaded.kept_attached {chain : List (Handler ν)} {request : Request}
    {response : Response} {calls : List (Call ν)} (threaded : Threaded chain request response calls)
    (position : Nat) (later : Call ν) (found : calls[position]? = some later)
    (kept : KeptTo calls position) : later.request.attached = request.attached := by
  induction position generalizing later with
  | zero => rw [(threaded.opening later found).1]
  | succ position ih =>
      have bound : position < calls.length := by
        have := (List.getElem?_eq_some_iff.mp found).1
        omega
      have reached : calls[position]? = some calls[position] := List.getElem?_eq_getElem bound
      have earlier := ih calls[position] reached fun before call below =>
        kept before call (Nat.lt_succ_of_lt below)
      have onward := threaded.handedOn position calls[position] later reached found
      rw [kept position calls[position] (Nat.lt_succ_self position) reached _ _ onward]
      exact earlier

end HttpRouter
