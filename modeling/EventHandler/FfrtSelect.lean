import Mathlib
import EventHandler.Lib.Pattern
import EventHandler.InnerEvent
import EventHandler.EventQueue
import EventHandler.Remove
import EventHandler.FfrtQueue

/-!
# Which tasks the FFRT queue selects

What the patterns of `EventQueueFFRT` select among the submitted names, next to what the filters of
`EventQueueBase` select among the events.

* `match_leading` — every pattern of a handler first reads the handler id and the task field; the
  other results are about what is left of the name.
* `match_id`, `match_param`, `match_hasParam`, `match_name` — the events each pattern selects.
* `select_by_id_agrees_iff`, `hasInnerEvent_same_id` — the removals by event id are those of
  `EventQueueBase`; `HasInnerEvent` also finds the events of another handler with the same id.
* `hasParam_agrees_iff`, `hasParam_suffix` — the search by param also finds numbers that end in it.
* `removeByName_agrees_iff`, `removeByName_separator` — the removal by name reads the name as an
  expression, and also takes tasks with the name behind a separator; `caught_dotted`, `caught_plain` —
  which ones, by the characters of the name.
-/

set_option autoImplicit false

namespace AppExecFwk

open Pattern

variable {H : Handlers} (E : RegexEngine)

/-- The fields that the patterns of a handler start with. -/
def leading (handlerId : String) (hasTask : Bool) : List UInt8 :=
  bytes handlerId ++ sep :: (taskField hasTask ++ [sep])

/-- What an event's name has behind the task field. -/
def restOfName (event : InnerEvent) : List UInt8 :=
  bytes (toString event.getInnerEventId.toNat) ++ sep ::
    (bytes (toString event.param) ++ sep :: cStr event.taskName)

theorem taskField_sep (hasTask : Bool) : sep ∉ taskField hasTask := by
  cases hasTask <;> decide

theorem taskField_inj {b c : Bool} (h : taskField b = taskField c) : b = c := by
  revert h
  cases b <;> cases c <;> decide

/-- A name starts with these fields if it is of that handler id and task field. -/
theorem name_leading {event : InnerEvent} (he : H.Sent event) (n : Nat) (hasTask : Bool)
    (t : List UInt8) :
    cStr (submittedName event) = leading (H.handler n).handlerId hasTask ++ t ↔
      event.hasTask = hasTask ∧ event.ownerId = (H.handler n).handlerId ∧ restOfName event = t := by
  obtain ⟨m, -, hid⟩ := he.owner
  have ho : sep ∉ bytes event.ownerId := by
    rw [hid]
    exact (isField_handlerId H m).sep
  have hh := (isField_handlerId H n).sep
  rw [name_bytes he]
  unfold leading
  simp only [List.append_assoc, List.cons_append, List.nil_append]
  rw [append_sep_inj ho hh, append_sep_inj (taskField_sep _) (taskField_sep _), bytes_inj]
  constructor
  · rintro ⟨hown, htask, hrest⟩
    exact ⟨taskField_inj htask, hown, hrest⟩
  · rintro ⟨htask, hown, hrest⟩
    exact ⟨hown, by rw [htask], hrest⟩

/-- The source of these fields. -/
theorem cStr_leading (n : Nat) (hasTask : Bool) (tail : String) :
    cStr ((H.handler n).handlerId ++ ((if hasTask then "\\|1\\|" else "\\|0\\|") ++ tail)) =
      render (text (leading (H.handler n).handlerId hasTask)) ++ cStr tail := by
  have hh := isField_handlerId H n
  have hmid : 0 ∉ bytes (if hasTask then "\\|1\\|" else "\\|0\\|") := by
    cases hasTask <;> decide
  have hsource : bytes (if hasTask then "\\|1\\|" else "\\|0\\|") =
      render (text (sep :: (taskField hasTask ++ [sep]))) := by
    cases hasTask <;> decide
  unfold leading
  rw [cStr_append hh.null, cStr_append hmid, hsource, text_append, render_append,
    render_text hh.plain, List.append_assoc]

/-- **The leading fields of a pattern** select the handler id, and tasks or events; the rest of the
    pattern is matched against the rest of the name. -/
theorem match_leading {event : InnerEvent} (he : H.Sent event) (n : Nat) (hasTask : Bool)
    {tail : String} {ps : List Piece} (hs : cStr tail = render ps) :
    E.regexMatch
        (cStr ((H.handler n).handlerId ++ ((if hasTask then "\\|1\\|" else "\\|0\\|") ++ tail)))
        (cStr (submittedName event)) = true ↔
      event.hasTask = hasTask ∧ event.ownerId = (H.handler n).handlerId ∧
        Matches ps (restOfName event) := by
  rw [cStr_leading, hs, ← render_append, E.regexMatch_render, matches_text_append]
  constructor
  · rintro ⟨t, ht, hm⟩
    obtain ⟨htask, hown, rfl⟩ := (name_leading he n hasTask t).1 ht
    exact ⟨htask, hown, hm⟩
  · rintro ⟨htask, hown, hm⟩
    exact ⟨restOfName event, (name_leading he n hasTask _).2 ⟨htask, hown, rfl⟩, hm⟩

theorem lineTerminator_sep : lineTerminator sep = false := by decide

/-- An event has only fields and separators in its name. -/
theorem restOfName_not_lineTerminator {event : InnerEvent} (he : H.Sent event)
    (ht : event.hasTask = false) : ∀ c ∈ restOfName event, lineTerminator c = false := by
  intro c hc
  unfold restOfName at hc
  rw [he.nameless ht] at hc
  rcases List.mem_append.1 hc with hc | hc
  · exact (isField_nat _).not_lineTerminator c hc
  rcases List.mem_cons.1 hc with rfl | hc
  · exact lineTerminator_sep
  rcases List.mem_append.1 hc with hc | hc
  · exact (isField_int _).not_lineTerminator c hc
  rcases List.mem_cons.1 hc with rfl | hc
  · exact lineTerminator_sep
  · cases hc

theorem innerEventId_inj {i j : UInt32} (h : bytes (toString i.toNat) = bytes (toString j.toNat)) :
    i = j :=
  UInt32.toNat_inj.1 (Nat.repr_injective (bytes_injective h))

theorem param_inj {x y : Int} (h : bytes (toString x) = bytes (toString y)) : x = y :=
  Int.repr_injective (bytes_injective h)

/-! ## The selections by event id -/

/-- A number in a pattern, with the separator behind it. -/
theorem cStr_number {s tail : String} (hs : IsField (bytes s)) {ps : List Piece}
    (ht : cStr tail = render ps) :
    cStr (s ++ ("\\|" ++ tail)) = render (text (bytes s ++ [sep]) ++ ps) := by
  have hbar : bytes "\\|" = render (text [sep]) := by decide
  rw [cStr_append hs.null, cStr_append (by decide), ht, hbar, render_text_append hs.plain,
    render_append]

theorem cStr_wildcard : cStr ".*" = render [.wildcard] := by decide

/-- The pattern's last literal, `"\\|.*"`. -/
theorem bar_wildcard : ("\\|.*" : String) = "\\|" ++ ".*" := by decide

theorem match_id {event : InnerEvent} (he : H.Sent event) (n : Nat) (innerEventId : UInt32) :
    E.regexMatch (cStr (idPattern innerEventId (H.handler n))) (cStr (submittedName event)) =
      idFilter innerEventId (H.handler n) event := by
  have hd := isField_nat innerEventId.toNat
  have hi := isField_nat event.getInnerEventId.toNat
  have hs : idPattern innerEventId (H.handler n) = (H.handler n).handlerId ++
      ((if false then "\\|1\\|" else "\\|0\\|") ++ (toString innerEventId.toNat ++ ("\\|" ++ ".*"))) := by
    unfold idPattern
    rw [bar_wildcard, String.append_assoc, String.append_assoc]
    rfl
  rw [Bool.eq_iff_iff, hs, match_leading E he n false (cStr_number hd cStr_wildcard),
    matches_text_append]
  unfold idFilter
  simp only [matches_wildcard_end, Bool.and_eq_true, Bool.not_eq_true', beq_iff_eq, and_assoc]
  refine and_congr_right fun ht => and_congr_right fun _ => ?_
  constructor
  · rintro ⟨t, hrest, -⟩
    unfold restOfName at hrest
    rw [List.append_assoc] at hrest
    exact innerEventId_inj ((append_sep_inj hi.sep hd.sep).1 hrest).1
  · rintro rfl
    have hlt := restOfName_not_lineTerminator he ht
    refine ⟨bytes (toString event.param) ++ sep :: cStr event.taskName, ?_, ?_⟩
    · unfold restOfName
      simp
    · intro c hc
      apply hlt
      unfold restOfName
      exact List.mem_append.2 (.inr (.tail _ hc))

theorem match_param {event : InnerEvent} (he : H.Sent event) (n : Nat) (innerEventId : UInt32)
    (param : Int) :
    E.regexMatch (cStr (paramPattern innerEventId param (H.handler n)))
        (cStr (submittedName event)) =
      paramFilter innerEventId param (H.handler n) event := by
  have hd := isField_nat innerEventId.toNat
  have hx := isField_int param
  have hi := isField_nat event.getInnerEventId.toNat
  have hp := isField_int event.param
  have hs : paramPattern innerEventId param (H.handler n) = (H.handler n).handlerId ++
      ((if false then "\\|1\\|" else "\\|0\\|") ++ (toString innerEventId.toNat ++
        ("\\|" ++ (toString param ++ ("\\|" ++ ".*"))))) := by
    unfold paramPattern
    rw [bar_wildcard]
    simp only [String.append_assoc]
    rfl
  rw [Bool.eq_iff_iff, hs,
    match_leading E he n false (cStr_number hd (cStr_number hx cStr_wildcard)), matches_text_append]
  unfold paramFilter
  simp only [matches_text_append, matches_wildcard_end, Bool.and_eq_true, Bool.not_eq_true',
    beq_iff_eq, and_assoc]
  refine and_congr_right fun ht => and_congr_right fun _ => ?_
  constructor
  · rintro ⟨t, hrest, u, rfl, -⟩
    unfold restOfName at hrest
    simp only [List.append_assoc] at hrest
    obtain ⟨hid, hrest⟩ := (append_sep_inj hi.sep hd.sep).1 hrest
    obtain ⟨hparam, -⟩ := (append_sep_inj hp.sep hx.sep).1 hrest
    exact ⟨innerEventId_inj hid, param_inj hparam⟩
  · rintro ⟨rfl, rfl⟩
    have hlt := restOfName_not_lineTerminator he ht
    refine ⟨bytes (toString event.param) ++ sep :: cStr event.taskName, ?_, cStr event.taskName, ?_, ?_⟩
    · unfold restOfName
      simp
    · simp
    · intro c hc
      apply hlt
      unfold restOfName
      exact List.mem_append.2 (.inr (.tail _ (List.mem_append.2 (.inr (.tail _ hc)))))

theorem match_task (q : EventQueueFFRT H) {t : FfrtTask} (ht : t ∈ q.tasks) (pattern : String) :
    E.regexMatch (cStr pattern) t.name =
      E.regexMatch (cStr pattern) (cStr (submittedName t.event)) := by
  rw [q.named t ht]

theorem filter_eq_filter_iff {α : Type} {l : List α} {p r : α → Bool} :
    l.filter p = l.filter r ↔ ∀ a ∈ l, p a = r a := by
  constructor
  · intro h a ha
    have hmem : a ∈ l.filter p ↔ a ∈ l.filter r := by rw [h]
    simp only [List.mem_filter, ha, true_and] at hmem
    exact Bool.eq_iff_iff.2 hmem
  · exact List.filter_congr

/-- A test that selects more gives the same answer if and only if the other one selects something, or
    it selects nothing itself. -/
theorem any_eq_any_iff {α : Type} {l : List α} {p r : α → Bool} {usable : Bool}
    (h : ∀ a ∈ l, r a = true → p a = true) :
    (usable && l.any p) = (usable && l.any r) ↔
      (usable = true → (∃ a ∈ l, r a = true) ∨ ∀ a ∈ l, ¬p a = true) := by
  cases usable with
  | false => simp
  | true =>
    simp only [Bool.true_and, true_implies]
    rw [Bool.eq_iff_iff, List.any_eq_true, List.any_eq_true]
    constructor
    · intro hsame
      by_cases hr : ∃ a ∈ l, r a = true
      · exact .inl hr
      · exact .inr fun a ha hp => hr (hsame.1 ⟨a, ha, hp⟩)
    · rintro (hr | hn)
      · obtain ⟨a, ha, hra⟩ := hr
        exact iff_of_true ⟨a, ha, h a ha hra⟩ ⟨a, ha, hra⟩
      · refine iff_of_false ?_ ?_
        · rintro ⟨a, ha, hp⟩
          exact hn a ha hp
        · rintro ⟨a, ha, hr⟩
          exact hn a ha (h a ha hr)

/-- What a `Remove` overload leaves is what a filter leaves, if and only if the pattern selects what
    the filter selects. -/
theorem removeMatching_eq_iff (q : EventQueueFFRT H) (pattern : EventHandler → String)
    (owner : EventHandler) (select : InnerEvent → Bool) :
    (q.removeMatching E pattern (some owner)).tasks =
        q.tasks.filter (fun t => !(q.usable && select t.event)) ↔
      (q.usable = true → ∀ t ∈ q.tasks,
        E.regexMatch (cStr (pattern owner)) t.name = select t.event) := by
  unfold EventQueueFFRT.removeMatching
  simp only
  cases hu : q.usable with
  | false => simp
  | true =>
    simp only [if_true, Bool.true_and, true_implies]
    show (q.tasks.filter fun t => !E.regexMatch (cStr (pattern owner)) t.name) = _ ↔ _
    rw [filter_eq_filter_iff]
    exact forall₂_congr fun t _ => Bool.not_inj_iff

theorem removeById_tasks (q : EventQueueFFRT H) (owner : Option Nat) (innerEventId : UInt32) :
    (q.removeById E (owner.map H.handler) innerEventId).tasks =
      q.tasks.filter fun t => !(q.usable &&
        (EventQueueBase.Selector.id (owner.map H.handler) innerEventId).selects t.event) := by
  cases owner with
  | none =>
    show q.tasks = _
    simp [EventQueueBase.Selector.selects]
  | some n =>
    apply (removeMatching_eq_iff E q _ _ _).2
    intro _ t ht
    rw [match_task E q ht, match_id E (q.sent t ht)]
    rfl

theorem removeByParam_tasks (q : EventQueueFFRT H) (owner : Option Nat) (innerEventId : UInt32)
    (param : Int) :
    (q.removeByParam E (owner.map H.handler) innerEventId param).tasks =
      q.tasks.filter fun t => !(q.usable &&
        (EventQueueBase.Selector.param (owner.map H.handler) innerEventId param).selects
          t.event) := by
  cases owner with
  | none =>
    show q.tasks = _
    simp [EventQueueBase.Selector.selects]
  | some n =>
    apply (removeMatching_eq_iff E q _ _ _).2
    intro _ t ht
    rw [match_task E q ht, match_param E (q.sent t ht)]
    rfl

/-- The tasks a `HasInnerEvent` overload asks for are those of a filter, if and only if the pattern
    selects what the filter selects. -/
theorem matching_eq_iff (q : EventQueueFFRT H) (pattern : EventHandler → String)
    (owner : EventHandler) (select : InnerEvent → Bool) :
    q.matching E pattern (some owner) = q.tasks.filter (fun t => q.usable && select t.event) ↔
      (q.usable = true → ∀ t ∈ q.tasks,
        E.regexMatch (cStr (pattern owner)) t.name = select t.event) := by
  unfold EventQueueFFRT.matching
  simp only
  rw [filter_eq_filter_iff]
  cases hu : q.usable <;> simp

/-- An event that carries the id of the handler, but was sent by another handler. -/
def OfNamesake (H : Handlers) (n : Nat) (event : InnerEvent) : Prop :=
  event.ownerId = (H.handler n).handlerId ∧ event.owner ≠ some n

theorem ownerId_of_owner {event : InnerEvent} (he : H.Sent event) {n : Nat}
    (h : event.owner = some n) : event.ownerId = (H.handler n).handlerId := by
  obtain ⟨m, hm, hid⟩ := he.owner
  obtain rfl := Option.some.inj (hm.symm.trans h)
  exact hid

theorem idFilter_handler (n : Nat) (innerEventId : UInt32) (event : InnerEvent) :
    idFilter innerEventId (H.handler n) event = true ↔ event.hasTask = false ∧
      event.ownerId = (H.handler n).handlerId ∧ event.getInnerEventId = innerEventId := by
  unfold idFilter
  simp only [Bool.and_eq_true, Bool.not_eq_true', beq_iff_eq, and_assoc]

theorem hasIdFilter_handler (n : Nat) (innerEventId : UInt32) (event : InnerEvent) :
    hasIdFilter innerEventId (H.handler n) event = true ↔ event.hasTask = false ∧
      event.owner = some n ∧ event.getInnerEventId = innerEventId := by
  unfold hasIdFilter
  simp only [Bool.and_eq_true, Bool.not_eq_true', decide_eq_true_eq, beq_iff_eq, and_assoc]
  rfl

/-- The two filters differ on the events of a namesake. -/
theorem filters_eq_iff {event : InnerEvent} (he : H.Sent event) (n : Nat) (innerEventId : UInt32) :
    idFilter innerEventId (H.handler n) event = hasIdFilter innerEventId (H.handler n) event ↔
      (event.hasTask = false → event.getInnerEventId = innerEventId → ¬OfNamesake H n event) := by
  rw [Bool.eq_iff_iff, idFilter_handler, hasIdFilter_handler]
  constructor
  · rintro h ht hi ⟨hid, hown⟩
    exact hown (h.1 ⟨ht, hid, hi⟩).2.1
  · intro h
    constructor
    · rintro ⟨ht, hid, hi⟩
      exact ⟨ht, Classical.byContradiction fun hown => h ht hi ⟨hid, hown⟩, hi⟩
    · rintro ⟨ht, hown, hi⟩
      exact ⟨ht, ownerId_of_owner he hown, hi⟩

/-- The tasks the pattern with the event id selects. -/
theorem match_id_task (q : EventQueueFFRT H) {t : FfrtTask} (ht : t ∈ q.tasks) (n : Nat)
    (innerEventId : UInt32) :
    E.regexMatch (cStr (idPattern innerEventId (H.handler n))) t.name = true ↔
      t.event.hasTask = false ∧ t.event.ownerId = (H.handler n).handlerId ∧
        t.event.getInnerEventId = innerEventId := by
  rw [match_task E q ht, match_id E (q.sent t ht), idFilter_handler]

theorem matching_id_iff (q : EventQueueFFRT H) (owner : Option Nat) (innerEventId : UInt32) :
    q.matching E (idPattern innerEventId) (owner.map H.handler) =
        q.tasks.filter (fun t => q.usable &&
          (owner.map H.handler).any fun o => hasIdFilter innerEventId o t.event) ↔
      ∀ n, owner = some n → q.usable = true → ∀ t ∈ q.tasks, t.event.hasTask = false →
        t.event.getInnerEventId = innerEventId → ¬OfNamesake H n t.event := by
  cases owner with
  | none =>
    show [] = _ ↔ _
    simp
  | some n =>
    refine (matching_eq_iff E q (idPattern innerEventId) (H.handler n)
      (hasIdFilter innerEventId (H.handler n))).trans ?_
    have hsame : ∀ t ∈ q.tasks, (E.regexMatch (cStr (idPattern innerEventId (H.handler n))) t.name =
        hasIdFilter innerEventId (H.handler n) t.event ↔ (t.event.hasTask = false →
          t.event.getInnerEventId = innerEventId → ¬OfNamesake H n t.event)) := by
      intro t ht
      rw [match_task E q ht, match_id E (q.sent t ht), filters_eq_iff (q.sent t ht)]
    constructor
    · intro h m hm hu t ht
      obtain rfl := Option.some.inj hm
      exact (hsame t ht).1 (h hu t ht)
    · exact fun h hu t ht => (hsame t ht).2 (h n rfl hu t ht)

/-- The answer is right as soon as an own event is there. -/
theorem hasInnerEventById_iff (q : EventQueueFFRT H) (owner : Option Nat) (innerEventId : UInt32) :
    q.hasInnerEventById E (owner.map H.handler) innerEventId =
        (q.usable && q.tasks.any fun t =>
          (owner.map H.handler).any fun o => hasIdFilter innerEventId o t.event) ↔
      ∀ n, owner = some n → q.usable = true →
        (∃ t ∈ q.tasks, t.event.hasTask = false ∧ t.event.owner = some n ∧
          t.event.getInnerEventId = innerEventId) ∨
        ∀ t ∈ q.tasks, t.event.hasTask = false → t.event.getInnerEventId = innerEventId →
          ¬OfNamesake H n t.event := by
  cases owner with
  | none =>
    show (false = _) ↔ _
    simp
  | some n =>
    show (q.usable && q.tasks.any fun t =>
        E.regexMatch (cStr (idPattern innerEventId (H.handler n))) t.name) =
      (q.usable && q.tasks.any fun t => hasIdFilter innerEventId (H.handler n) t.event) ↔ _
    refine (any_eq_any_iff fun t ht hf => ?_).trans ?_
    · obtain ⟨hk, hown, hi⟩ := (hasIdFilter_handler n innerEventId t.event).1 hf
      exact (match_id_task E q ht n innerEventId).2 ⟨hk, ownerId_of_owner (q.sent t ht) hown, hi⟩
    simp only [hasIdFilter_handler, Option.some.injEq, forall_eq']
    -- Without an event of the owner, what the pattern selects is of a namesake.
    refine imp_congr_right fun _ => or_congr_right' fun hno => forall₂_congr fun t ht => ?_
    rw [match_id_task E q ht]
    constructor
    · exact fun hn hk hi hs => hn ⟨hk, hs.1, hi⟩
    · rintro hn ⟨hk, hid, hi⟩
      exact hn hk hi ⟨hid, fun hown => hno ⟨t, ht, hk, hown, hi⟩⟩

/-- **The selections by event id.**  `Remove(owner, id)` and `Remove(owner, id, param)` cancel the
    tasks whose events the filters of `EventQueueBase` select.  `HasInnerEvent(owner, id)` asks for
    those its filter selects exactly when none of them is of a namesake of the owner, and gives the
    same answer also when an event of the owner is among them. -/
theorem select_by_id_agrees_iff (q : EventQueueFFRT H) (owner : Option Nat) (innerEventId : UInt32)
    (param : Int) :
    (q.removeById E (owner.map H.handler) innerEventId).tasks =
        q.tasks.filter (fun t => !(q.usable &&
          (EventQueueBase.Selector.id (owner.map H.handler) innerEventId).selects t.event)) ∧
      (q.removeByParam E (owner.map H.handler) innerEventId param).tasks =
        q.tasks.filter (fun t => !(q.usable &&
          (EventQueueBase.Selector.param (owner.map H.handler) innerEventId param).selects
            t.event)) ∧
      (q.matching E (idPattern innerEventId) (owner.map H.handler) =
          q.tasks.filter (fun t => q.usable &&
            (owner.map H.handler).any fun o => hasIdFilter innerEventId o t.event) ↔
        ∀ n, owner = some n → q.usable = true → ∀ t ∈ q.tasks, t.event.hasTask = false →
          t.event.getInnerEventId = innerEventId → ¬OfNamesake H n t.event) ∧
      (q.hasInnerEventById E (owner.map H.handler) innerEventId =
          (q.usable && q.tasks.any fun t =>
            (owner.map H.handler).any fun o => hasIdFilter innerEventId o t.event) ↔
        ∀ n, owner = some n → q.usable = true →
          (∃ t ∈ q.tasks, t.event.hasTask = false ∧ t.event.owner = some n ∧
            t.event.getInnerEventId = innerEventId) ∨
          ∀ t ∈ q.tasks, t.event.hasTask = false → t.event.getInnerEventId = innerEventId →
            ¬OfNamesake H n t.event) :=
  ⟨removeById_tasks E q owner innerEventId, removeByParam_tasks E q owner innerEventId param,
    matching_id_iff E q owner innerEventId, hasInnerEventById_iff E q owner innerEventId⟩

/-- Handlers constructed one after the other, and two whose ids are the same. -/
def sampleHandlers : Handlers := .constructed fun _ => 1

def sameIdHandlers : Handlers where
  count _ := 1
  timestamp _ := 1

def sampleQueue (param : Int) (name : String) : EventQueueFFRT sampleHandlers :=
  ((EventQueueFFRT.create.insertEvent (sampleHandlers.sendEvent 0 0 (.u32 5) param)
    (sent_sendEvent _ _ _ _ _) .AT_END).1.insertEvent
      (sampleHandlers.postTask 0 0 name) (sent_postTask _ _ _ _) .AT_END).1

theorem sampleQueue_events {param : Int} {name : String} {t : FfrtTask}
    (h : t ∈ (sampleQueue param name).tasks) :
    t.event = sampleHandlers.sendEvent 0 0 (.u32 5) param ∨
      t.event = sampleHandlers.postTask 0 0 name := by
  rcases List.mem_cons.1 h with rfl | h
  · exact .inl rfl
  · obtain rfl := List.mem_singleton.1 h
    exact .inr rfl

/-- Handler 1 has sent an event. -/
def sameIdQueue : EventQueueFFRT sameIdHandlers :=
  (EventQueueFFRT.create.insertEvent (sameIdHandlers.sendEvent 1 0 (.u32 5) 0)
    (sent_sendEvent _ _ _ _ _) .AT_END).1

/-- Only the event is selected, also with a negative param and a task whose name has a separator. -/
theorem select_by_id_sample :
    ((sampleQueue (-1) "5|-1").removeById wildcardEngine ((some 0).map sampleHandlers.handler)
        5).tasks.length = 1 ∧
      ((sampleQueue (-1) "5|-1").removeByParam wildcardEngine
        ((some 0).map sampleHandlers.handler) 5 (-1)).tasks.length = 1 := by
  obtain ⟨hid, hparam, -⟩ :=
    select_by_id_agrees_iff wildcardEngine (sampleQueue (-1) "5|-1") (some 0) 5 (-1)
  rw [hid, hparam]
  decide

/-- Handler 0 has no event pending, but the one of handler 1 is found. -/
theorem hasInnerEvent_same_id :
    ¬∀ (E : RegexEngine) (H : Handlers) (q : EventQueueFFRT H) (owner : Option Nat)
      (innerEventId : UInt32),
      q.hasInnerEventById E (owner.map H.handler) innerEventId =
        (q.usable && q.tasks.any fun t =>
          (owner.map H.handler).any fun o => hasIdFilter innerEventId o t.event) := by
  intro hall
  have h := hall wildcardEngine sameIdHandlers sameIdQueue (some 0) 5
  revert h
  decide +kernel

/-! ## The search by param -/

/-- The param ends the event's id or its param. -/
def EndsIn (param : Int) (event : InnerEvent) : Prop :=
  bytes (toString param) <:+ bytes (toString event.getInnerEventId.toNat) ∨
    bytes (toString param) <:+ bytes (toString event.param)

theorem match_hasParam {event : InnerEvent} (he : H.Sent event) (n : Nat) (param : Int) :
    E.regexMatch (cStr (hasParamPattern param (H.handler n))) (cStr (submittedName event)) = true ↔
      event.hasTask = false ∧ event.ownerId = (H.handler n).handlerId ∧ EndsIn param event := by
  have hx := isField_int param
  have hi := isField_nat event.getInnerEventId.toNat
  have hp := isField_int event.param
  have hs : hasParamPattern param (H.handler n) = (H.handler n).handlerId ++
      ((if false then "\\|1\\|" else "\\|0\\|") ++ (".*" ++ (toString param ++ ("\\|" ++ ".*")))) := by
    unfold hasParamPattern
    rw [bar_wildcard, show ("\\|0\\|.*" : String) = "\\|0\\|" ++ ".*" by decide]
    simp only [String.append_assoc]
    rfl
  have htail : cStr (".*" ++ (toString param ++ ("\\|" ++ ".*"))) =
      render (.wildcard :: (text (bytes (toString param) ++ [sep]) ++ [.wildcard])) := by
    rw [cStr_append (by decide), cStr_number hx cStr_wildcard,
      show bytes ".*" = Piece.wildcard.render by decide]
    rfl
  rw [hs, match_leading E he n false htail]
  refine and_congr_right fun ht => and_congr_right fun _ => ?_
  have hlt := restOfName_not_lineTerminator he ht
  have hrest : restOfName event = bytes (toString event.getInnerEventId.toNat) ++ sep ::
      (bytes (toString event.param) ++ sep :: []) := by
    unfold restOfName
    rw [he.nameless ht]
    rfl
  calc (∃ u v, restOfName event = u ++ v ∧ (∀ c ∈ u, lineTerminator c = false) ∧
        Matches (text (bytes (toString param) ++ [sep]) ++ [.wildcard]) v)
      ↔ ∃ u t, restOfName event = u ++ (bytes (toString param) ++ sep :: t) := by
        simp only [matches_text_append, matches_wildcard_end]
        constructor
        · rintro ⟨u, v, huv, -, t, rfl, -⟩
          exact ⟨u, t, by simpa using huv⟩
        · rintro ⟨u, t, h⟩
          rw [h] at hlt
          refine ⟨u, _, h, fun c hc => hlt c (by simp [hc]), t, by simp, ?_⟩
          intro c hc
          exact hlt c (by simp [hc])
    _ ↔ EndsIn param event := by
        rw [hrest, sep_after hi.sep hx.sep, sep_after hp.sep hx.sep]
        unfold EndsIn
        simp

/-- The tasks the pattern of the search by param selects. -/
theorem match_hasParam_task (q : EventQueueFFRT H) {t : FfrtTask} (ht : t ∈ q.tasks) (n : Nat)
    (param : Int) :
    E.regexMatch (cStr (hasParamPattern param (H.handler n))) t.name = true ↔
      t.event.hasTask = false ∧ t.event.ownerId = (H.handler n).handlerId ∧
        EndsIn param t.event := by
  rw [match_task E q ht, match_hasParam E (q.sent t ht)]

theorem hasParamFilter_iff (n : Nat) (param : Int) (event : InnerEvent) :
    hasParamFilter param (H.handler n) event = true ↔
      event.hasTask = false ∧ event.owner = some n ∧ event.param = param := by
  unfold hasParamFilter
  simp only [Bool.and_eq_true, Bool.not_eq_true', decide_eq_true_eq, beq_iff_eq, and_assoc]
  rfl

/-- **The search by param** answers as `EventQueueBase` does if and only if an event of the owner with
    exactly that param is there, or no event with the owner's handler id has an id or a param that ends
    in it. -/
theorem hasParam_agrees_iff (q : EventQueueFFRT H) (owner : Option Nat) (param : Int) :
    q.hasInnerEventByParam E (owner.map H.handler) param =
        (q.usable && q.tasks.any fun t =>
          (owner.map H.handler).any fun o => hasParamFilter param o t.event) ↔
      ∀ n, owner = some n → q.usable = true →
        (∃ t ∈ q.tasks, t.event.hasTask = false ∧ t.event.owner = some n ∧ t.event.param = param) ∨
        ∀ t ∈ q.tasks, t.event.hasTask = false → t.event.ownerId = (H.handler n).handlerId →
          ¬EndsIn param t.event := by
  cases owner with
  | none =>
    show (false = _) ↔ _
    simp
  | some n =>
    show (q.usable && q.tasks.any fun t =>
        E.regexMatch (cStr (hasParamPattern param (H.handler n))) t.name) =
      (q.usable && q.tasks.any fun t => hasParamFilter param (H.handler n) t.event) ↔ _
    refine (any_eq_any_iff fun t ht hf => ?_).trans ?_
    · obtain ⟨hk, hown, rfl⟩ := (hasParamFilter_iff n param t.event).1 hf
      exact (match_hasParam_task E q ht n _).2
        ⟨hk, ownerId_of_owner (q.sent t ht) hown, .inr (List.suffix_refl _)⟩
    simp only [hasParamFilter_iff, Option.some.injEq, forall_eq']
    refine imp_congr_right fun _ => or_congr_right (forall₂_congr fun t ht => ?_)
    rw [match_hasParam_task E q ht, not_and, not_and]

/-- The event with param 15 is found by its param. -/
theorem hasParam_sample :
    (sampleQueue 15 "").hasInnerEventByParam wildcardEngine ((some 0).map sampleHandlers.handler)
      15 = true := by
  have h := (hasParam_agrees_iff wildcardEngine (sampleQueue 15 "") (some 0) 15).2 (by
    rintro n hn -
    cases hn
    exact .inl ⟨_, List.mem_cons_self, rfl, rfl, rfl⟩)
  rw [h]
  decide

/-- The event with param 15 is also found by 5. -/
theorem hasParam_suffix :
    ¬∀ (E : RegexEngine) (H : Handlers) (q : EventQueueFFRT H) (owner : Option Nat) (param : Int),
      q.hasInnerEventByParam E (owner.map H.handler) param =
        (q.usable && q.tasks.any fun t =>
          (owner.map H.handler).any fun o => hasParamFilter param o t.event) := by
  intro hall
  have h := hall wildcardEngine sampleHandlers (sampleQueue 15 "") (some 0) 5
  revert h
  decide +kernel

/-! ## The removal by name -/

/-- The first alternative of `\|name` describes the end of a name of the handler's tasks, up to a text
    without line terminators that the wildcard takes, or a further alternative describes a whole
    name. -/
def Caught (handlerId name : String) (event : InnerEvent) : Prop :=
  ∃ a as, E.read (bytes "\\|" ++ cStr name) = some (a, as) ∧
    ((event.hasTask = true ∧ event.ownerId = handlerId ∧
        ∃ x y, restOfName event = x ++ y ∧ (∀ c ∈ x, lineTerminator c = false) ∧
          E.describes a (leading handlerId true ++ x) y = true) ∨
      ∃ b ∈ as, E.describes b [] (cStr (submittedName event)) = true)

/-- The source of the removal by name. -/
theorem cStr_namePattern (n : Nat) (name : String) :
    cStr (namePattern name (H.handler n)) =
      render (text (leading (H.handler n).handlerId true) ++ [.wildcard]) ++
        (bytes "\\|" ++ cStr name) := by
  have hs : namePattern name (H.handler n) = (H.handler n).handlerId ++
      ((if true then "\\|1\\|" else "\\|0\\|") ++ (".*" ++ ("\\|" ++ name))) := by
    unfold namePattern
    rw [show (".*\\|" : String) = ".*" ++ "\\|" by decide]
    simp only [String.append_assoc]
    rfl
  rw [hs, cStr_leading, cStr_append (by decide), cStr_append (by decide), render_append,
    List.append_assoc]
  rfl

theorem match_name {event : InnerEvent} (he : H.Sent event) (n : Nat) (name : String) :
    E.regexMatch (cStr (namePattern name (H.handler n))) (cStr (submittedName event)) = true ↔
      Caught E (H.handler n).handlerId name event := by
  have hq : quantified (bytes "\\|" ++ cStr name) = false := rfl
  rw [cStr_namePattern]
  unfold Caught
  cases hr : E.read (bytes "\\|" ++ cStr name) with
  | none =>
    rw [E.regexMatch_of_none (E.read_render_none hq hr _)]
    simp
  | some d =>
    obtain ⟨a, as⟩ := d
    obtain ⟨b, hb, hdesc⟩ := E.read_render_append hq hr
      (text (leading (H.handler n).handlerId true) ++ [.wildcard])
    have hfirst : E.describes b [] (cStr (submittedName event)) = true ↔
        event.hasTask = true ∧ event.ownerId = (H.handler n).handlerId ∧
          ∃ x y, restOfName event = x ++ y ∧ (∀ c ∈ x, lineTerminator c = false) ∧
            E.describes a (leading (H.handler n).handlerId true ++ x) y = true := by
      rw [hdesc]
      constructor
      · rintro ⟨u, y, huy, hu, hy⟩
        obtain ⟨x, rfl, hx⟩ := (matches_text_append _ u).1 hu
        rw [List.append_assoc] at huy
        obtain ⟨ht, hown, hrest⟩ := (name_leading he n true _).1 huy
        exact ⟨ht, hown, x, y, hrest, (matches_wildcard_end x).1 hx, hy⟩
      · rintro ⟨ht, hown, x, y, hrest, hx, hy⟩
        refine ⟨leading (H.handler n).handlerId true ++ x, y, ?_, ?_, hy⟩
        · rw [List.append_assoc]
          exact (name_leading he n true _).2 ⟨ht, hown, hrest⟩
        · rw [matches_text_append]
          exact ⟨x, rfl, (matches_wildcard_end x).2 hx⟩
    rw [E.regexMatch_of_some hb, hfirst]
    constructor
    · exact fun h => ⟨a, as, rfl, h⟩
    · rintro ⟨a', as', h, hc⟩
      obtain ⟨rfl, rfl⟩ := Prod.mk.inj (Option.some.inj h)
      exact hc

/-- The text stands in `param|taskName` behind a separator. -/
def Behind (y : List UInt8) (event : InnerEvent) : Prop :=
  bytes (toString event.param) ++ sep :: cStr event.taskName = y ∨
    ∃ x, bytes (toString event.param) ++ sep :: cStr event.taskName = x ++ sep :: y ∧
      ∀ c ∈ x, lineTerminator c = false

/-- For a name whose only syntax characters are dots, every dot stands for some byte. -/
theorem caught_dotted {name : String} (h : ∀ c ∈ cStr name, c ∈ syntaxCharacters → c = ascii '.')
    (handlerId : String) (event : InnerEvent) :
    Caught E handlerId name event ↔ event.hasTask = true ∧ event.ownerId = handlerId ∧
      ∃ y, Reads (cStr name) y ∧ Behind y event := by
  have hi := isField_nat event.getInnerEventId.toNat
  have hsource : bytes "\\|" ++ cStr name = render (text [sep] ++ dotted (cStr name)) := by
    rw [render_append, render_dotted h]
    rfl
  obtain ⟨a, hread, ha⟩ := E.read_render (text [sep] ++ dotted (cStr name))
  have hbehind : ∀ y, (∃ x, restOfName event = x ++ sep :: y ∧
      ∀ c ∈ x, lineTerminator c = false) ↔ Behind y event :=
    fun y => behind_sep hi.sep hi.not_lineTerminator lineTerminator_sep
  unfold Caught
  rw [hsource, hread]
  constructor
  · rintro ⟨a', as', hsome, hc⟩
    obtain ⟨rfl, rfl⟩ := Prod.mk.inj (Option.some.inj hsome)
    obtain ⟨ht, hown, x, v, hrest, hx, hv⟩ | ⟨b, hb, -⟩ := hc
    · rw [ha, matches_text_append] at hv
      obtain ⟨y, rfl, hy⟩ := hv
      exact ⟨ht, hown, y, (matches_dotted _ y).1 hy, (hbehind y).1 ⟨x, hrest, hx⟩⟩
    · cases hb
  · rintro ⟨ht, hown, y, hy, hb⟩
    obtain ⟨x, hrest, hx⟩ := (hbehind y).2 hb
    refine ⟨a, [], rfl, .inl ⟨ht, hown, x, sep :: y, hrest, hx, ?_⟩⟩
    rw [ha, matches_text_append]
    exact ⟨y, rfl, (matches_dotted _ y).2 hy⟩

/-- A name without syntax characters catches its own tasks, and those with the name behind a
    separator. -/
theorem caught_plain {name : String} (h : Plain (cStr name)) (handlerId : String)
    (event : InnerEvent) :
    Caught E handlerId name event ↔ event.hasTask = true ∧ event.ownerId = handlerId ∧
      (cStr event.taskName = cStr name ∨ ∃ x, cStr event.taskName = x ++ sep :: cStr name ∧
        ∀ c ∈ x, lineTerminator c = false) := by
  have hp := isField_int event.param
  have hdot : ascii '.' ∉ cStr name := fun hm => h _ hm (by decide)
  have hsep : sep ∉ cStr name := fun hm => h _ hm (by decide)
  rw [caught_dotted E fun c hc hx => absurd hx (h c hc)]
  refine and_congr_right fun _ => and_congr_right fun _ => ?_
  unfold Behind
  simp only [reads_iff hdot, exists_eq_left]
  rw [behind_sep hp.sep hp.not_lineTerminator lineTerminator_sep]
  constructor
  · rintro (h | h)
    · rw [← h] at hsep
      exact absurd (by simp) hsep
    · exact h
  · exact .inr

/-- A task of the handler with that name, the name not being empty. -/
def namedTask (n : Nat) (name : String) (event : InnerEvent) : Bool :=
  event.hasTask && decide (event.owner = some n) && !name.isEmpty && event.taskName == name

/-- The tasks that the removal by name leaves are those that a filter leaves, if and only if the name
    catches what the filter selects. -/
theorem removeByName_eq_iff (q : EventQueueFFRT H) (n : Nat) (name : String)
    (select : InnerEvent → Bool) :
    (q.removeByName E (some (H.handler n)) name).tasks =
        q.tasks.filter (fun t => !(q.usable && select t.event)) ↔
      (q.usable = true → ∀ t ∈ q.tasks,
        (Caught E (H.handler n).handlerId name t.event ↔ select t.event = true)) := by
  refine (removeMatching_eq_iff E q (namePattern name) (H.handler n) select).trans ?_
  refine forall_congr' fun _ => forall₂_congr fun t ht => ?_
  rw [Bool.eq_iff_iff, match_task E q ht, match_name E (q.sent t ht)]

/-- **The removal by name** cancels the tasks that `EventQueueBase` removes, or those of the owner with
    that name, if and only if the name catches just these.  Names without syntax characters, or with
    dots only, catch the tasks with the name behind a separator. -/
theorem removeByName_agrees_iff (q : EventQueueFFRT H) (owner : Option Nat) (name : String) :
    ((q.removeByName E (owner.map H.handler) name).tasks =
        q.tasks.filter (fun t => !(q.usable &&
          (EventQueueBase.Selector.name (owner.map H.handler) name).selects t.event)) ↔
      ∀ n, owner = some n → q.usable = true → ∀ t ∈ q.tasks,
        (Caught E (H.handler n).handlerId name t.event ↔
          t.event.hasTask = true ∧ t.event.ownerId = (H.handler n).handlerId ∧ name ≠ "" ∧
            t.event.taskName = name)) ∧
      ((q.removeByName E (owner.map H.handler) name).tasks =
          q.tasks.filter (fun t => !(q.usable && owner.any fun n => namedTask n name t.event)) ↔
        ∀ n, owner = some n → q.usable = true → ∀ t ∈ q.tasks,
          (Caught E (H.handler n).handlerId name t.event ↔
            t.event.hasTask = true ∧ t.event.owner = some n ∧ name ≠ "" ∧
              t.event.taskName = name)) ∧
      ∀ handlerId event,
        ((∀ c ∈ cStr name, c ∈ syntaxCharacters → c = ascii '.') →
          (Caught E handlerId name event ↔ event.hasTask = true ∧ event.ownerId = handlerId ∧
            ∃ y, Reads (cStr name) y ∧ Behind y event)) ∧
        (Plain (cStr name) →
          (Caught E handlerId name event ↔ event.hasTask = true ∧ event.ownerId = handlerId ∧
            (cStr event.taskName = cStr name ∨ ∃ x, cStr event.taskName = x ++ sep :: cStr name ∧
              ∀ c ∈ x, lineTerminator c = false))) := by
  have hempty : name.isEmpty = false ↔ name ≠ "" := by
    rw [Bool.eq_false_iff, Ne, String.isEmpty_iff]
  refine ⟨?_, ?_, fun handlerId event =>
    ⟨fun h => caught_dotted E h handlerId event, fun h => caught_plain E h handlerId event⟩⟩
  · cases owner with
    | none =>
      show (q.tasks = _) ↔ _
      simp [EventQueueBase.Selector.selects]
    | some n =>
      have hselects : ∀ event,
          (EventQueueBase.Selector.name (some (H.handler n)) name).selects event = true ↔
            event.hasTask = true ∧ event.ownerId = (H.handler n).handlerId ∧ name ≠ "" ∧
              event.taskName = name := by
        intro event
        show (!name.isEmpty && nameFilter name (H.handler n) event) = true ↔ _
        unfold nameFilter
        simp only [Bool.and_eq_true, Bool.not_eq_true', beq_iff_eq, hempty]
        tauto
      refine (removeByName_eq_iff E q n name
        (EventQueueBase.Selector.name (some (H.handler n)) name).selects).trans ?_
      simp only [hselects, Option.some.injEq, forall_eq']
  · cases owner with
    | none =>
      show (q.tasks = _) ↔ _
      simp
    | some n =>
      have hnamed : ∀ event, namedTask n name event = true ↔
          event.hasTask = true ∧ event.owner = some n ∧ name ≠ "" ∧ event.taskName = name := by
        intro event
        unfold namedTask
        simp only [Bool.and_eq_true, Bool.not_eq_true', decide_eq_true_eq, beq_iff_eq, hempty,
          and_assoc]
      refine (removeByName_eq_iff E q n name (namedTask n name)).trans ?_
      simp only [hnamed, Option.some.injEq, forall_eq']

/-- The task of that name is cancelled, and the event stays. -/
theorem removeByName_sample :
    ((sampleQueue 15 "b").removeByName wildcardEngine ((some 0).map sampleHandlers.handler)
      "b").tasks.map FfrtTask.event = [sampleHandlers.sendEvent 0 0 (.u32 5) 15] := by
  obtain ⟨hagrees, -, hcaught⟩ :=
    removeByName_agrees_iff wildcardEngine (sampleQueue 15 "b") (some 0) "b"
  have h := hagrees.2 (by
    rintro n hn - t ht
    obtain rfl := Option.some.inj hn
    rw [(hcaught _ _).2 (by decide +kernel)]
    rcases sampleQueue_events ht with he | he
    · have hk : t.event.hasTask = false := by rw [he]; rfl
      simp [hk]
    · have hk : t.event.hasTask = true := by rw [he]; rfl
      have hid : t.event.ownerId = (sampleHandlers.handler 0).handlerId := by rw [he]; rfl
      have hname : t.event.taskName = "b" := by rw [he]; rfl
      simp [hk, hid, hname])
  rw [h]
  decide

/-- A task named `a|b` is cancelled under the name `b`. -/
theorem removeByName_separator :
    ¬∀ (E : RegexEngine) (H : Handlers) (q : EventQueueFFRT H) (owner : Option Nat) (name : String),
      (q.removeByName E (owner.map H.handler) name).tasks =
        q.tasks.filter (fun t => !(q.usable &&
          (EventQueueBase.Selector.name (owner.map H.handler) name).selects t.event)) := by
  intro hall
  have h := hall wildcardEngine sampleHandlers (sampleQueue 15 "a|b") (some 0) "b"
  revert h
  decide +kernel

end AppExecFwk
