import Mathlib
import EventHandler.Lib.KeyedList
import EventHandler.InnerEvent

/-!
# The listener registry of the CJ emitter

Model of the part of `frameworks/cj/src/emitter.cpp` that keeps the listeners.  Every function here
runs under `g_emitterInsMutex`, so a history is a list of calls.

* `CjEmitter` — the `CallbackInfo` objects, numbered in the order of their creation, and
  `g_emitterImpls`.  The order in which an `unordered_set` is walked is the order of the list; the
  results hold for every order, because no two entries of a set have one name.
* `Subscriptions` — what the registry is for: a map from event ids and names to subscriptions.
* `CjEmitter.view`, `step_spec` — one call on the containers is one operation on the map.
* `registry_iff` — every history behaves as the map, and the count of listeners is right exactly
  for the ids that have some.

`getListenerCountByEventId` reads through `end()` when the id has no entry.  What follows is
undefined, so such a call gives no next state.
-/

set_option autoImplicit false

namespace EventsEmitter

open AppExecFwk

def SUCCESS : Int := 0

structure CallbackImpl where
  name : String
  /-- The function behind `std::function`. -/
  callback : Nat
  deriving DecidableEq, Repr

structure CallbackInfo where
  callbackImpl : CallbackImpl
  once : Bool
  deriving DecidableEq, Repr

structure CjEmitter where
  infos : Nat → CallbackInfo
  /-- The number of `CallbackInfo` objects made so far. -/
  created : Nat
  emitterImpls : EventId → Option (List Nat)

inductive CjOp where
  | on (eventId : EventId) (callback : CallbackImpl)
  | once (eventId : EventId) (callback : CallbackImpl)
  | off (eventId : EventId)
  | offCallback (eventId : EventId) (callback : CallbackImpl)
  | getEventCallbacks (eventId : EventId)
  | getListenerCount (eventId : EventId)
  deriving DecidableEq, Repr

namespace CjEmitter

def nameOf (s : CjEmitter) (info : Nat) : String := (s.infos info).callbackImpl.name

/-- What is left of a set under its key; the key of an empty set is erased. -/
def store (s : CjEmitter) (eventId : EventId) (infos : List Nat) : CjEmitter :=
  { s with
    emitterImpls :=
      Function.update s.emitterImpls eventId (if infos = [] then none else some infos) }

def searchCallbackInfo (s : CjEmitter) (eventId : EventId) (callbackName : String) (erase : Bool) :
    CjEmitter × Option Nat :=
  match s.emitterImpls eventId with
  | none => (s, none)
  | some subscribe =>
    match KeyedList.lookup s.nameOf subscribe callbackName with
    | some info => if erase then (s.store eventId (subscribe.erase info), none) else (s, some info)
    | none => (s.store eventId subscribe, none)

/-- Each of the four branches leaves `once` in the flag. -/
def updateOnceFlag (s : CjEmitter) (info : Nat) (once : Bool) : CjEmitter :=
  { s with infos := Function.update s.infos info { s.infos info with once := once } }

/-- `std::make_shared<CallbackInfo>()` and `g_emitterImpls[eventId].insert`. -/
def insert (s : CjEmitter) (eventId : EventId) (callbackImpl : CallbackImpl) (once : Bool) :
    CjEmitter :=
  { infos := Function.update s.infos s.created ⟨callbackImpl, once⟩
    created := s.created + 1
    emitterImpls :=
      Function.update s.emitterImpls eventId
        (some ((s.emitterImpls eventId).getD [] ++ [s.created])) }

def onOrOnce (s : CjEmitter) (eventId : EventId) (callbackImpl : CallbackImpl) (once : Bool) :
    CjEmitter × Int :=
  match s.searchCallbackInfo eventId callbackImpl.name false with
  | (t, some info) => (t.updateOnceFlag info once, SUCCESS)
  | (t, none) => (t.insert eventId callbackImpl once, SUCCESS)

/-- `Unsubscribe(eventId)`. -/
def unsubscribe (s : CjEmitter) (eventId : EventId) : CjEmitter :=
  { s with emitterImpls := Function.update s.emitterImpls eventId none }

/-- `Unsubscribe(eventId, callback)`. -/
def unsubscribeCallback (s : CjEmitter) (eventId : EventId) (callback : CallbackImpl) : CjEmitter :=
  (s.searchCallbackInfo eventId callback.name true).1

/-- The listeners an event is for; those of `Once` leave the set. -/
def getEventCallbacks (s : CjEmitter) (eventId : EventId) : CjEmitter × List Nat :=
  match s.emitterImpls eventId with
  | none => (s, [])
  | some subscribe =>
    (s.store eventId (subscribe.filter fun info => !(s.infos info).once), subscribe)

/-- `static_cast<uint32_t>(subscribe->second.size())`, with no test for `end()`. -/
def getListenerCountByEventId (s : CjEmitter) (eventId : EventId) : Option UInt32 :=
  (s.emitterImpls eventId).map fun subscribe => UInt32.ofNat subscribe.length

def step (s : CjEmitter) : CjOp → Option CjEmitter
  | .on eventId callback => some (s.onOrOnce eventId callback false).1
  | .once eventId callback => some (s.onOrOnce eventId callback true).1
  | .off eventId => some (s.unsubscribe eventId)
  | .offCallback eventId callback => some (s.unsubscribeCallback eventId callback)
  | .getEventCallbacks eventId => some (s.getEventCallbacks eventId).1
  | .getListenerCount eventId => (s.getListenerCountByEventId eventId).map fun _ => s

/-- No listener was ever registered. -/
def init : CjEmitter :=
  { infos := fun _ => ⟨⟨"", 0⟩, false⟩, created := 0, emitterImpls := fun _ => none }

end CjEmitter

/-! ## The registry as a map -/

structure Subscription where
  callback : Nat
  once : Bool
  deriving DecidableEq, Repr

/-- The named subscriptions of every event. -/
def Subscriptions : Type := EventId → String → Option Subscription

namespace Subscriptions

def empty : Subscriptions := fun _ _ => none

/-- A name that is subscribed keeps its callback. -/
def subscribe (m : Subscriptions) (id : EventId) (impl : CallbackImpl) (once : Bool) :
    Subscriptions :=
  fun id' name =>
    if id' = id ∧ name = impl.name then
      match m id impl.name with
      | some sub => some { sub with once := once }
      | none => some ⟨impl.callback, once⟩
    else m id' name

def unsubscribe (m : Subscriptions) (id : EventId) : Subscriptions :=
  fun id' name => if id' = id then none else m id' name

def unsubscribeName (m : Subscriptions) (id : EventId) (name : String) : Subscriptions :=
  fun id' name' => if id' = id ∧ name' = name then none else m id' name'

/-- An event takes the subscriptions away that were for one event only. -/
def dispatch (m : Subscriptions) (id : EventId) : Subscriptions :=
  fun id' name => if id' = id then (m id name).filter fun sub => !sub.once else m id' name

def apply (m : Subscriptions) : CjOp → Subscriptions
  | .on id callback => m.subscribe id callback false
  | .once id callback => m.subscribe id callback true
  | .off id => m.unsubscribe id
  | .offCallback id callback => m.unsubscribeName id callback.name
  | .getEventCallbacks id => m.dispatch id
  | .getListenerCount _ => m

/-- The names subscribed to an event, with their callbacks. -/
def subscribed (m : Subscriptions) (id : EventId) : Set CallbackImpl :=
  {impl | ∃ once, m id impl.name = some ⟨impl.callback, once⟩}

/-- The number of names subscribed to an event. -/
noncomputable def count (m : Subscriptions) (id : EventId) : Nat :=
  {name | (m id name).isSome}.ncard

end Subscriptions

/-! ## The containers as the map -/

namespace CjEmitter

def subscribers (s : CjEmitter) (id : EventId) : List Nat := (s.emitterImpls id).getD []

def subscription (s : CjEmitter) (info : Nat) : Subscription :=
  ⟨(s.infos info).callbackImpl.callback, (s.infos info).once⟩

def view (s : CjEmitter) : Subscriptions :=
  fun id name => (KeyedList.lookup s.nameOf (s.subscribers id) name).map s.subscription

/-- What holds between two calls. -/
structure Registered (s : CjEmitter) : Prop where
  nonempty : ∀ id l, s.emitterImpls id = some l → l ≠ []
  names : ∀ id, ((s.subscribers id).map s.nameOf).Nodup
  made : ∀ id, ∀ info ∈ s.subscribers id, info < s.created
  /-- No listener is in the sets of two events. -/
  apart : ∀ id id', ∀ info ∈ s.subscribers id, info ∈ s.subscribers id' → id = id'

section

variable {s : CjEmitter} {id : EventId}

theorem subscribers_none (h : s.emitterImpls id = none) : s.subscribers id = [] := by
  simp [subscribers, h]

theorem subscribers_some {l : List Nat} (h : s.emitterImpls id = some l) :
    s.subscribers id = l := by
  simp [subscribers, h]

theorem subscribers_store (s : CjEmitter) (id : EventId) (l : List Nat) (id' : EventId) :
    (s.store id l).subscribers id' = if id' = id then l else s.subscribers id' := by
  unfold subscribers store
  by_cases h : id' = id
  · subst h
    by_cases hl : l = [] <;> simp [hl]
  · simp [h]

theorem view_store (s : CjEmitter) (id : EventId) (l : List Nat) (id' : EventId) (name : String) :
    (s.store id l).view id' name =
      if id' = id then (KeyedList.lookup s.nameOf l name).map s.subscription
      else s.view id' name := by
  have h : (s.store id l).view id' name =
      (KeyedList.lookup s.nameOf ((s.store id l).subscribers id') name).map s.subscription := rfl
  rw [h, subscribers_store]
  split <;> rfl

/-- Storing a set over itself changes nothing. -/
theorem store_self (h : Registered s) {l : List Nat} (hl : s.emitterImpls id = some l) :
    s.store id l = s := by
  unfold store
  rw [if_neg (h.nonempty id l hl), ← hl, Function.update_eq_self]

theorem Registered.store (h : Registered s) {l : List Nat}
    (hl : l.Sublist (s.subscribers id)) : Registered (s.store id l) := by
  have sub : ∀ id', ((s.store id l).subscribers id').Sublist (s.subscribers id') := by
    intro id'
    rw [subscribers_store]
    split
    · rename_i he
      rw [he]
      exact hl
    · exact .refl _
  refine ⟨?_, ?_, ?_, ?_⟩
  · intro id' l' hl'
    by_cases he : id' = id
    · subst he
      have hu : (if l = [] then none else some l) = some l' := by
        simpa [CjEmitter.store] using hl'
      split at hu
      · cases hu
      · rename_i hne
        cases hu
        exact hne
    · have hu : s.emitterImpls id' = some l' := by simpa [CjEmitter.store, he] using hl'
      exact h.nonempty id' l' hu
  · intro id'
    exact (h.names id').sublist ((sub id').map _)
  · intro id' info hi
    exact h.made id' info ((sub id').subset hi)
  · intro id' id'' info hi hi'
    exact h.apart id' id'' info ((sub id').subset hi) ((sub id'').subset hi')

theorem searchCallbackInfo_false (h : Registered s) (name : String) :
    s.searchCallbackInfo id name false =
      (s, KeyedList.lookup s.nameOf (s.subscribers id) name) := by
  unfold searchCallbackInfo
  cases hl : s.emitterImpls id with
  | none => simp [subscribers_none hl]
  | some l =>
    rw [subscribers_some hl]
    cases hf : KeyedList.lookup s.nameOf l name with
    | none => simp [hf, store_self h hl]
    | some info => simp [hf]

theorem unsubscribeCallback_eq (h : Registered s) (callback : CallbackImpl) :
    s.unsubscribeCallback id callback =
      match KeyedList.lookup s.nameOf (s.subscribers id) callback.name with
      | some info => s.store id ((s.subscribers id).erase info)
      | none => s := by
  unfold unsubscribeCallback searchCallbackInfo
  cases hl : s.emitterImpls id with
  | none => simp [subscribers_none hl]
  | some l =>
    rw [subscribers_some hl]
    cases hf : KeyedList.lookup s.nameOf l callback.name with
    | none => simp [hf, store_self h hl]
    | some info => simp [hf]

theorem unsubscribe_eq (s : CjEmitter) (id : EventId) : s.unsubscribe id = s.store id [] := rfl

theorem getEventCallbacks_eq (s : CjEmitter) (id : EventId) :
    s.getEventCallbacks id =
      (s.store id ((s.subscribers id).filter fun info => !(s.infos info).once),
        s.subscribers id) := by
  unfold getEventCallbacks
  cases hl : s.emitterImpls id with
  | none =>
    rw [subscribers_none hl]
    have hs : s.store id [] = s := by
      unfold store
      rw [if_pos rfl, ← hl, Function.update_eq_self]
    simp [hs]
  | some l => rw [subscribers_some hl]

/-! ### Registration -/

theorem nameOf_updateOnceFlag (s : CjEmitter) (info : Nat) (once : Bool) :
    (s.updateOnceFlag info once).nameOf = s.nameOf := by
  funext i
  unfold nameOf updateOnceFlag
  by_cases hi : i = info
  · subst hi
    simp
  · simp [hi]

theorem Registered.updateOnceFlag (h : Registered s) (info : Nat) (once : Bool) :
    Registered (s.updateOnceFlag info once) := by
  refine ⟨h.nonempty, ?_, h.made, h.apart⟩
  intro id
  rw [nameOf_updateOnceFlag]
  exact h.names id

theorem subscribers_insert (s : CjEmitter) (id : EventId) (impl : CallbackImpl) (once : Bool)
    (id' : EventId) :
    (s.insert id impl once).subscribers id' =
      if id' = id then s.subscribers id ++ [s.created] else s.subscribers id' := by
  unfold subscribers insert
  by_cases h : id' = id
  · subst h
    simp
  · simp [h]

theorem infos_insert (id : EventId) (impl : CallbackImpl) (once : Bool) {info : Nat}
    (h : info < s.created) : (s.insert id impl once).infos info = s.infos info := by
  have hne : info ≠ s.created := by omega
  simp [insert, hne]

theorem nameOf_insert (id : EventId) (impl : CallbackImpl) (once : Bool) {info : Nat}
    (h : info < s.created) : (s.insert id impl once).nameOf info = s.nameOf info := by
  unfold nameOf
  rw [infos_insert id impl once h]

theorem infos_insert_created (s : CjEmitter) (id : EventId) (impl : CallbackImpl) (once : Bool) :
    (s.insert id impl once).infos s.created = ⟨impl, once⟩ := by
  simp [insert]

theorem Registered.insert (h : Registered s) {impl : CallbackImpl} (once : Bool)
    (hn : KeyedList.lookup s.nameOf (s.subscribers id) impl.name = none) :
    Registered (s.insert id impl once) := by
  have hmade : ∀ id', ∀ info ∈ (s.insert id impl once).subscribers id',
      info ∈ s.subscribers id' ∨ id' = id ∧ info = s.created := by
    intro id' info hi
    rw [subscribers_insert] at hi
    split at hi
    · rename_i he
      subst he
      simpa using hi
    · exact .inl hi
  refine ⟨?_, ?_, ?_, ?_⟩
  · intro id' l hl
    by_cases he : id' = id
    · subst he
      have hu : (s.emitterImpls id').getD [] ++ [s.created] = l := by
        simpa [CjEmitter.insert] using hl
      rw [← hu]
      simp
    · have hu : s.emitterImpls id' = some l := by simpa [CjEmitter.insert, he] using hl
      exact h.nonempty id' l hu
  · intro id'
    have hold : (s.subscribers id').map (s.insert id impl once).nameOf =
        (s.subscribers id').map s.nameOf :=
      List.map_congr_left fun info hi => nameOf_insert id impl once (h.made id' info hi)
    rw [subscribers_insert]
    split
    · rename_i he
      subst he
      apply KeyedList.nodup_append_singleton
      · rw [hold]
        exact h.names id'
      · rw [KeyedList.lookup_congr fun info hi => nameOf_insert id' impl once (h.made id' info hi)]
        unfold nameOf
        rw [infos_insert_created]
        exact hn
    · rw [hold]
      exact h.names id'
  · intro id' info hi
    have hc : (s.insert id impl once).created = s.created + 1 := rfl
    rcases hmade id' info hi with hi | ⟨-, rfl⟩
    · have := h.made id' info hi
      omega
    · omega
  · intro id' id'' info hi hi'
    rcases hmade id' info hi with hi | ⟨rfl, rfl⟩
    · rcases hmade id'' info hi' with hi' | ⟨-, rfl⟩
      · exact h.apart id' id'' info hi hi'
      · have := h.made id' _ hi
        omega
    · rcases hmade id'' _ hi' with hi' | ⟨rfl, -⟩
      · have := h.made id'' _ hi'
        omega
      · rfl

/-! ### One call, one operation on the map -/

theorem view_eq_none {name : String} :
    s.view id name = none ↔ KeyedList.lookup s.nameOf (s.subscribers id) name = none := by
  simp [view]

theorem view_updateOnceFlag (h : Registered s) {info : Nat} (hi : info ∈ s.subscribers id)
    (once : Bool) (id' : EventId) (name : String) :
    (s.updateOnceFlag info once).view id' name =
      if id' = id ∧ name = s.nameOf info then some { s.subscription info with once := once }
      else s.view id' name := by
  have hv : (s.updateOnceFlag info once).view id' name =
      (KeyedList.lookup s.nameOf (s.subscribers id') name).map
        (s.updateOnceFlag info once).subscription := by
    unfold view
    rw [nameOf_updateOnceFlag]
    rfl
  rw [hv]
  unfold view
  split
  · rename_i he
    obtain ⟨rfl, rfl⟩ := he
    rw [(KeyedList.lookup_eq_some (h.names id')).2 ⟨hi, rfl⟩]
    simp [subscription, updateOnceFlag]
  · rename_i hne
    cases hf : KeyedList.lookup s.nameOf (s.subscribers id') name with
    | none => rfl
    | some i =>
      obtain ⟨him, hin⟩ := (KeyedList.lookup_eq_some (h.names id')).1 hf
      have hii : i ≠ info := by
        rintro rfl
        exact hne ⟨h.apart id' id i him hi, hin.symm⟩
      simp [subscription, updateOnceFlag, hii]

theorem view_insert (h : Registered s) {impl : CallbackImpl} (once : Bool)
    (hn : KeyedList.lookup s.nameOf (s.subscribers id) impl.name = none) (id' : EventId)
    (name : String) :
    (s.insert id impl once).view id' name =
      if id' = id ∧ name = impl.name then some ⟨impl.callback, once⟩ else s.view id' name := by
  have hold : ∀ id', (KeyedList.lookup (s.insert id impl once).nameOf (s.subscribers id') name).map
      (s.insert id impl once).subscription = s.view id' name := by
    intro id'
    rw [KeyedList.lookup_congr fun info hi => nameOf_insert id impl once (h.made id' info hi)]
    unfold view
    cases hf : KeyedList.lookup s.nameOf (s.subscribers id') name with
    | none => rfl
    | some i =>
      have hi := h.made id' i (KeyedList.mem_of_lookup hf)
      simp [subscription, infos_insert id impl once hi]
  have hname : (s.insert id impl once).nameOf s.created = impl.name := by
    unfold nameOf
    rw [infos_insert_created]
  have hnew : (s.insert id impl once).subscription s.created = ⟨impl.callback, once⟩ := by
    unfold subscription
    rw [infos_insert_created]
  have hv : (s.insert id impl once).view id' name =
      (KeyedList.lookup (s.insert id impl once).nameOf ((s.insert id impl once).subscribers id')
        name).map (s.insert id impl once).subscription := rfl
  rw [hv, subscribers_insert]
  by_cases he : id' = id
  · subst he
    rw [if_pos rfl, KeyedList.lookup_append_singleton, hname, Option.map_or, hold]
    by_cases hname' : name = impl.name
    · subst hname'
      rw [if_pos rfl, if_pos ⟨rfl, rfl⟩, view_eq_none.2 hn, Option.map_some, hnew, Option.none_or]
    · rw [if_neg (Ne.symm hname'), if_neg fun h => hname' h.2, Option.map_none, Option.or_none]
  · rw [if_neg he, if_neg fun h => he h.1]
    exact hold id'

theorem onOrOnce_spec (h : Registered s) (id : EventId) (impl : CallbackImpl) (once : Bool) :
    Registered (s.onOrOnce id impl once).1 ∧
      (s.onOrOnce id impl once).1.view = s.view.subscribe id impl once := by
  unfold onOrOnce
  rw [searchCallbackInfo_false h]
  cases hf : KeyedList.lookup s.nameOf (s.subscribers id) impl.name with
  | none =>
    refine ⟨h.insert once hf, ?_⟩
    funext id' name
    rw [Subscriptions.subscribe, view_insert h once hf, view_eq_none.2 hf]
  | some info =>
    refine ⟨h.updateOnceFlag info once, ?_⟩
    obtain ⟨hi, hname⟩ := (KeyedList.lookup_eq_some (h.names id)).1 hf
    have hv : s.view id impl.name = some (s.subscription info) := by
      unfold view
      rw [hf]
      rfl
    funext id' name
    rw [Subscriptions.subscribe, view_updateOnceFlag h hi, hname, hv]

theorem unsubscribe_spec (h : Registered s) (id : EventId) :
    Registered (s.unsubscribe id) ∧ (s.unsubscribe id).view = s.view.unsubscribe id := by
  rw [unsubscribe_eq]
  refine ⟨h.store (List.nil_sublist _), ?_⟩
  funext id' name
  rw [view_store, Subscriptions.unsubscribe]
  rfl

theorem unsubscribeCallback_spec (h : Registered s) (id : EventId) (callback : CallbackImpl) :
    Registered (s.unsubscribeCallback id callback) ∧
      (s.unsubscribeCallback id callback).view = s.view.unsubscribeName id callback.name := by
  rw [unsubscribeCallback_eq h]
  cases hf : KeyedList.lookup s.nameOf (s.subscribers id) callback.name with
  | none =>
    refine ⟨h, ?_⟩
    funext id' name
    unfold Subscriptions.unsubscribeName
    by_cases he : id' = id ∧ name = callback.name
    · rw [if_pos he, he.1, he.2]
      exact view_eq_none.2 hf
    · rw [if_neg he]
  | some info =>
    obtain ⟨hi, hname⟩ := (KeyedList.lookup_eq_some (h.names id)).1 hf
    refine ⟨h.store List.erase_sublist, ?_⟩
    funext id' name
    simp only [view_store, Subscriptions.unsubscribeName, KeyedList.lookup_erase (h.names id) hi,
      hname]
    by_cases he : id' = id
    · subst he
      by_cases hn : name = callback.name
      · simp [hn]
      · simp [hn, Ne.symm hn, view]
    · simp [he]

theorem getEventCallbacks_spec (h : Registered s) (id : EventId) :
    Registered (s.getEventCallbacks id).1 ∧
      (s.getEventCallbacks id).1.view = s.view.dispatch id := by
  rw [getEventCallbacks_eq]
  refine ⟨h.store List.filter_sublist, ?_⟩
  funext id' name
  rw [view_store, Subscriptions.dispatch, KeyedList.lookup_filter (h.names id)]
  split
  · unfold view
    cases KeyedList.lookup s.nameOf (s.subscribers id) name with
    | none => rfl
    | some info =>
      cases ho : (s.infos info).once <;> simp [subscription, Option.filter, ho]
  · rfl

/-- **One call on the containers is one operation on the map.** -/
theorem step_spec {t : CjEmitter} (h : Registered s) {op : CjOp} (hst : s.step op = some t) :
    Registered t ∧ t.view = s.view.apply op := by
  cases op with
  | on eventId callback =>
    cases hst
    exact onOrOnce_spec h eventId callback false
  | once eventId callback =>
    cases hst
    exact onOrOnce_spec h eventId callback true
  | off eventId =>
    cases hst
    exact unsubscribe_spec h eventId
  | offCallback eventId callback =>
    cases hst
    exact unsubscribeCallback_spec h eventId callback
  | getEventCallbacks eventId =>
    cases hst
    exact getEventCallbacks_spec h eventId
  | getListenerCount eventId =>
    obtain ⟨n, -, rfl⟩ := Option.map_eq_some_iff.1 hst
    exact ⟨h, rfl⟩

end

end CjEmitter

/-! ## Every history -/

namespace CjEmitter

theorem registered_init : Registered init :=
  ⟨nofun, fun _ => List.nodup_nil, nofun, nofun⟩

theorem count_eq {s : CjEmitter} (h : Registered s) (id : EventId) :
    s.view.count id = (s.subscribers id).length := by
  rw [← KeyedList.ncard_keys (h.names id)]
  unfold Subscriptions.count view
  congr 1
  ext name
  simp

/-- `GetListenerCount` answers with the number of names subscribed to the event. -/
def CountsRight (s : CjEmitter) (id : EventId) : Prop :=
  ∃ n, s.getListenerCountByEventId id = some n ∧ n.toNat = s.view.count id

theorem countsRight_iff {s : CjEmitter} (h : Registered s) (id : EventId) :
    s.CountsRight id ↔ 0 < s.view.count id ∧ s.view.count id < 2 ^ 32 := by
  rw [count_eq h]
  unfold CountsRight getListenerCountByEventId
  rw [count_eq h]
  cases hl : s.emitterImpls id with
  | none => simp [subscribers_none hl]
  | some l =>
    have hne : 0 < l.length := List.length_pos_iff.2 (h.nonempty id l hl)
    rw [subscribers_some hl]
    simp only [Option.map_some, Option.some.injEq, exists_eq_left', UInt32.toNat_ofNat']
    omega

/-- What an event is dispatched to. -/
theorem getEventCallbacks_subscribed {s : CjEmitter} (h : Registered s) (id : EventId) :
    (((s.getEventCallbacks id).2).map fun info => (s.infos info).callbackImpl.name).Nodup ∧
      {impl | ∃ info ∈ (s.getEventCallbacks id).2, (s.infos info).callbackImpl = impl} =
        s.view.subscribed id := by
  rw [getEventCallbacks_eq]
  refine ⟨h.names id, ?_⟩
  ext impl
  simp only [Set.mem_ofPred_eq, Subscriptions.subscribed, view, Option.map_eq_some_iff,
    KeyedList.lookup_eq_some (h.names id)]
  constructor
  · rintro ⟨info, hi, rfl⟩
    exact ⟨(s.infos info).once, info, ⟨hi, rfl⟩, rfl⟩
  · rintro ⟨once, info, ⟨hi, hname⟩, hsub⟩
    refine ⟨info, hi, ?_⟩
    have hc : (s.infos info).callbackImpl.callback = impl.callback :=
      congrArg Subscription.callback hsub
    have hn : (s.infos info).callbackImpl.name = impl.name := hname
    cases hi' : (s.infos info).callbackImpl with
    | mk name callback =>
      rw [hi'] at hc hn
      subst hc hn
      rfl

/-- What a call answers. -/
def AnswersRight (s : CjEmitter) : CjOp → Prop
  | .getEventCallbacks id =>
    (((s.getEventCallbacks id).2).map fun info => (s.infos info).callbackImpl.name).Nodup ∧
      {impl | ∃ info ∈ (s.getEventCallbacks id).2, (s.infos info).callbackImpl = impl} =
        s.view.subscribed id
  | .getListenerCount id => s.CountsRight id
  | _ => True

/-- Every call of the history is defined, answers as the map answers, does to the containers what it
    does to the map, and leaves no id with an empty set. -/
def RunsAsMap : CjEmitter → List CjOp → Prop
  | _, [] => True
  | s, op :: ops =>
    s.AnswersRight op ∧ ∃ t, s.step op = some t ∧ t.view = s.view.apply op ∧
      (∀ id, t.emitterImpls id ≠ some []) ∧ t.RunsAsMap ops

end CjEmitter

/-- The listeners are counted only for events that have some, and less than `2 ^ 32`. -/
def Subscriptions.CountsSubscribed : Subscriptions → List CjOp → Prop
  | _, [] => True
  | m, op :: ops =>
    (∀ id, op = .getListenerCount id → 0 < m.count id ∧ m.count id < 2 ^ 32) ∧
      (m.apply op).CountsSubscribed ops

namespace CjEmitter

theorem step_defined {s : CjEmitter} {op : CjOp}
    (h : ∀ id, op = .getListenerCount id → s.CountsRight id) : ∃ t, s.step op = some t := by
  cases op with
  | getListenerCount id =>
    obtain ⟨n, hn, -⟩ := h id rfl
    exact ⟨s, by simp [step, hn]⟩
  | _ => exact ⟨_, rfl⟩

theorem answersRight_iff {s : CjEmitter} (h : Registered s) (op : CjOp) :
    s.AnswersRight op ↔
      ∀ id, op = .getListenerCount id → 0 < s.view.count id ∧ s.view.count id < 2 ^ 32 := by
  cases op with
  | getListenerCount id => simp [AnswersRight, countsRight_iff h]
  | getEventCallbacks id => simp [AnswersRight, getEventCallbacks_subscribed h id]
  | _ => simp [AnswersRight]

theorem runsAsMap_iff {s : CjEmitter} (h : Registered s) (ops : List CjOp) :
    s.RunsAsMap ops ↔ s.view.CountsSubscribed ops := by
  induction ops generalizing s with
  | nil => simp [RunsAsMap, Subscriptions.CountsSubscribed]
  | cons op ops ih =>
    unfold RunsAsMap Subscriptions.CountsSubscribed
    rw [answersRight_iff h]
    refine and_congr_right fun hop => ?_
    constructor
    · rintro ⟨t, hst, hv, -, hr⟩
      rw [← hv]
      exact (ih (step_spec h hst).1).1 hr
    · intro hm
      obtain ⟨t, hst⟩ := step_defined fun id he => (countsRight_iff h id).2 (hop id he)
      obtain ⟨ht, hv⟩ := step_spec h hst
      refine ⟨t, hst, hv, fun id he => ht.nonempty id [] he rfl, (ih ht).2 ?_⟩
      rw [hv]
      exact hm

end CjEmitter

/-- **A history behaves as a map from event ids to named subscriptions exactly when it counts the
    listeners of no event without listeners**, and of none with `2 ^ 32` or more. -/
theorem registry_iff (ops : List CjOp) :
    CjEmitter.init.RunsAsMap ops ↔ Subscriptions.empty.CountsSubscribed ops :=
  CjEmitter.runsAsMap_iff CjEmitter.registered_init ops

/-- The listeners of an event are counted after its last one was taken away. -/
theorem registry_counts_absent :
    ¬ CjEmitter.init.RunsAsMap [.on (.u32 1) ⟨"a", 7⟩, .off (.u32 1), .getListenerCount (.u32 1)] := by
  rintro ⟨-, s, hs, -, -, -, t, ht, -, -, ⟨n, hn, -⟩, -⟩
  cases hs
  cases ht
  cases hn

end EventsEmitter
