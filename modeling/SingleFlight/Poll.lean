import SingleFlight.System

/-!
# Polling

Polling a get advances it as far as it goes without time passing. A get that waits for a shared load advances that
load first, so a value that is due at the same moment wins over the end of its patience.

* a load that is being advanced already is not advanced again from inside itself;
* a get that started its load waits for it without bound;
* every call is for less work than its caller's, so a poll as deep as the work at hand is cut short nowhere.
-/

namespace SingleFlight

/-- The steps left in a script. -/
def Loader.size : Loader τ → Nat
  | done _ | fail _ | panic _ => 1
  | sleep _ next => next.size + 2
  | invalidate _ _ next => next.size + 1
  | invalidateAll _ next => next.size + 1
  | get _ loader => loader.size + 6

mutual
/-- The steps left in a get. -/
def Get.size : Get τ → Nat
  | .asking _ loader => loader.size + 5
  | .awaiting _ _ _ none => 2
  | .awaiting _ _ _ (some p) => p.loader.size + 4
  | .loading _ run => run.size + 1

/-- The steps left in a loader. -/
def Run.size : Run τ → Nat
  | .calling _ loader => loader.size + 2
  | .running loader => loader.size + 1
  | .sleeping _ loader => loader.size + 2
  | .nested get => get.size + 1
end

/-- The steps left in a load. -/
def Load.size : Load → Nat
  | ⟨_, _, _, .idle _ run⟩ => run.size
  | _ => 0

/-- The steps left in all loads together. -/
def System.work (s : System) : Nat := s.loads.foldr (fun load left => load.size + left) 0

/-- A poll ends with work left to do, or with an outcome. -/
inductive Progress (σ : Type) (ε : Type) (α : Type) where
  | pending (rest : σ)
  | ended (outcome : Outcome ε α)

mutual
/-- Advances a get. -/
def Get.poll (depth : Nat) (s : System) (get : Get τ) :
    System × Progress (Get τ) CacheFault (Option (Typed τ)) :=
  match depth with
  | 0 => (s, .pending get)
  | depth + 1 =>
    match get with
    | .asking request loader =>
      match request.key with
      | .error fault => (s, .ended (.failed (.invalidKey fault)))
      | .ok key =>
        match s.reach request with
        | .error e => (s, .ended (.failed e))
        | .ok (.passThrough name) =>
          Get.poll depth (s.emit (.passedThrough name key)) (.loading name (.calling ⟨request.label, name, key⟩ loader))
        | .ok (.local store) =>
          let call : Call := ⟨request.label, store.name, key⟩
          match s.lookUp store call loader with
          | (s, .stored value) => (s, .ended (System.typed τ store.name value))
          | (s, .started id) => Get.poll depth s (.awaiting store.name key id none)
          | (s, .joined id) =>
            let patience : Option (Patience τ) :=
              if request.patience = .zero then none
              else some ⟨s.now + request.patience.millisRoundedUp, request.patience, call, loader⟩
            Get.poll depth s (.awaiting store.name key id patience)
    | .awaiting cache key id patience =>
      let s := System.advance depth s id
      match s.outcome? id with
      | some outcome => (s, .ended (System.typedResult τ cache outcome))
      | none =>
        match patience with
        | none => (s, .pending (.awaiting cache key id none))
        | some p =>
          if p.due ≤ s.now then
            Get.poll depth (s.emit (.lockTimedOut cache key id p.lockTimeout))
              (.loading cache (.calling p.call p.loader))
          else (s, .pending (.awaiting cache key id (some p)))
    | .loading cache run =>
      match Run.poll depth s none run with
      | (s, .pending run) => (s, .pending (.loading cache run))
      | (s, .ended outcome) => (s, .ended (outcome.mapError (.computation cache)))

/-- Advances a loader, which the shared load `load` has called, or else a get by itself. -/
def Run.poll (depth : Nat) (s : System) (load : Option Nat) (run : Run τ) :
    System × Progress (Run τ) Failure (Option (Typed τ)) :=
  match depth with
  | 0 => (s, .pending run)
  | depth + 1 =>
    match run with
    | .calling call loader => Run.poll depth (s.emit (.called call load)) load (.running loader)
    | .sleeping due loader =>
      if due ≤ s.now then Run.poll depth s load (.running loader) else (s, .pending (.sleeping due loader))
    | .nested get =>
      match Get.poll depth s get with
      | (s, .pending get) => (s, .pending (.nested get))
      | (s, .ended outcome) => (s, .ended (outcome.mapError .error))
    | .running loader =>
      match loader with
      | .done value => (s, .ended (.value value))
      | .fail failure => (s, .ended (.failed failure))
      | .panic payload => (s, .ended (.panicked payload))
      | .sleep ms next => Run.poll depth s load (.sleeping (s.now + ms) next)
      | .invalidate cache key next =>
        match s.invalidate cache key with
        | .ok s => Run.poll depth s load (.running next)
        | .error e => (s, .ended (.failed (.error e)))
      | .invalidateAll cache next =>
        match s.invalidateAll cache with
        | .ok s => Run.poll depth s load (.running next)
        | .error e => (s, .ended (.failed (.error e)))
      | .get request inner => Run.poll depth s load (.nested (.asking request inner))
termination_by structural depth

/-- Advances a shared load, unless it has ended or is being advanced already. -/
def System.advance (depth : Nat) (s : System) (id : Nat) : System :=
  match depth with
  | 0 => s
  | depth + 1 =>
    match s.load? id with
    | some ⟨cache, key, number, .idle _ run⟩ =>
      match Run.poll depth (s.setLoad id .busy) (some id) run with
      | (s, .pending run) => s.setLoad id (.idle _ run)
      | (s, .ended outcome) => s.land id cache key number (System.loadResult outcome)
    | _ => s
termination_by structural depth
end

/-- Advances a get as far as it goes now. -/
def System.poll (s : System) (get : Get τ) : System × Progress (Get τ) CacheFault (Option (Typed τ)) :=
  Get.poll (s.work + get.size) s get

end SingleFlight
