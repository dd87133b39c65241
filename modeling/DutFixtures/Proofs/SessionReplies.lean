import DutFixtures.Session
import Mathlib.Logic.Equiv.Basic

namespace DutFixtures

/-- The list in which the entries at two places have changed places. -/
def exchange {α : Type} (xs : List α) (i j : Nat) : List α :=
  xs.mapIdx fun k x => xs[Equiv.swap i j k]?.getD x

section Exchange

variable {α : Type} {xs : List α} {i j k : Nat}

theorem getElem?_exchange :
    (exchange xs i j)[k]? = xs[k]?.map fun x => xs[Equiv.swap i j k]?.getD x :=
  List.getElem?_mapIdx

theorem getElem?_exchange_of_ne (apart : k ≠ i) (apart' : k ≠ j) :
    (exchange xs i j)[k]? = xs[k]? := by
  rw [getElem?_exchange, Equiv.swap_apply_of_ne_of_ne apart apart']
  cases xs[k]? <;> rfl

end Exchange

/-- A request that the server cannot take in: a call whose arguments are neither left out
nor an object, or a method that it does not know. -/
def Request.Malformed : Request → Prop
  | .call _ arguments => arguments ≠ .null ∧ ∀ fields, arguments ≠ .object fields
  | .method name => methodValue? name = none

/-- No malformed request stands at a place. -/
def WellFormedAt (requests : List Request) (k : Nat) : Prop :=
  ∀ request ∈ requests[k]?, ¬ request.Malformed

theorem argumentFields?_eq_none_iff {arguments : Json} :
    argumentFields? arguments = none ↔
      arguments ≠ .null ∧ ∀ fields, arguments ≠ .object fields := by
  cases arguments <;> simp [argumentFields?]

variable {d : Defaults} {bench : Bench}

theorem Request.reply_of_malformed {request : Request} (malformed : request.Malformed) :
    request.reply d bench = .closed := by
  cases request with
  | call tool arguments => rw [reply, argumentFields?_eq_none_iff.mpr malformed]
  | method name =>
    have unknown : methodValue? name = none := malformed
    rw [reply, unknown]

/-- A tool that fails answers all the same, so only the form of a request closes a session. -/
theorem Request.reply_of_wellFormed {request : Request} (wellFormed : ¬ request.Malformed) :
    ∃ log response, request.reply d bench = .answered log response := by
  cases request with
  | call tool arguments =>
    have given := mt argumentFields?_eq_none_iff.mp wellFormed
    obtain ⟨fields, found⟩ := Option.ne_none_iff_exists'.mp given
    exact ⟨_, _, by rw [reply, found]⟩
  | method name =>
    obtain ⟨json, found⟩ := Option.ne_none_iff_exists'.mp wellFormed
    exact ⟨_, _, by rw [reply, found]⟩

theorem Request.isOpen_reply_iff {request : Request} :
    (request.reply d bench).isOpen = true ↔ ¬ request.Malformed := by
  constructor
  · intro stays malformed
    rw [reply_of_malformed malformed] at stays
    nomatch stays
  · intro wellFormed
    obtain ⟨log, response, answer⟩ : ∃ log response, request.reply d bench = _ :=
      reply_of_wellFormed wellFormed
    rw [answer]
    rfl

/-- The session after some requests. -/
def Session.after (s : Session) (d : Defaults) (bench : Bench) (requests : List Request) :
    Session :=
  requests.foldl (fun s request => (s.step d bench request).1) s

section Steps

variable {s : Session} {request : Request}

/-- A well-formed request leaves a session as it was, whether that is open or not. -/
theorem Session.step_of_wellFormed (wellFormed : ¬ request.Malformed) :
    (s.step d bench request).1 = s := by
  obtain ⟨isOpen⟩ := s
  cases isOpen with
  | false => rfl
  | true =>
    have stays : (request.reply d bench).isOpen = true := Request.isOpen_reply_iff.mpr wellFormed
    exact congrArg Session.mk stays

theorem Session.step_of_malformed (malformed : request.Malformed) :
    s.step d bench request = (⟨false⟩, .closed) := by
  obtain ⟨isOpen⟩ := s
  cases isOpen with
  | false => rfl
  | true =>
    have closed : request.reply d bench = .closed := Request.reply_of_malformed malformed
    simp only [step, if_true, closed]
    rfl

end Steps

section Runs

variable {s : Session} {before after requests : List Request} {i j k : Nat}

theorem Session.replies_cons (request : Request) (rest : List Request) :
    s.replies d bench (request :: rest) =
      (s.step d bench request).2 :: (s.step d bench request).1.replies d bench rest :=
  rfl

theorem Session.replies_append :
    s.replies d bench (before ++ after) =
      s.replies d bench before ++ (s.after d bench before).replies d bench after := by
  induction before generalizing s with
  | nil => rfl
  | cons request before ih =>
    rw [List.cons_append, replies_cons, replies_cons, ih, List.cons_append]
    rfl

theorem Session.length_replies : (s.replies d bench requests).length = requests.length := by
  induction requests generalizing s with
  | nil => rfl
  | cons request rest ih => rw [replies_cons, List.length_cons, ih, List.length_cons]

theorem Session.take_replies :
    (s.replies d bench requests).take k = s.replies d bench (requests.take k) := by
  induction requests generalizing s k with
  | nil => rw [List.take_nil, replies, List.take_nil]
  | cons request rest ih =>
    cases k with
    | zero => rfl
    | succ k => rw [replies_cons, List.take_succ_cons, ih, List.take_succ_cons, replies_cons]

/-- From any place on the requests are answered by the session that those before it have left. -/
theorem Session.drop_replies :
    (s.replies d bench requests).drop k =
      (s.after d bench (requests.take k)).replies d bench (requests.drop k) := by
  induction requests generalizing s k with
  | nil => rw [List.drop_nil, replies, replies, List.drop_nil]
  | cons request rest ih =>
    cases k with
    | zero => rfl
    | succ k =>
      rw [replies_cons, List.drop_succ_cons, ih]
      rfl

theorem Session.getElem?_replies :
    (s.replies d bench requests)[k]? =
      requests[k]?.map fun r => ((s.after d bench (requests.take k)).step d bench r).2 := by
  rw [← List.head?_drop, drop_replies, ← List.head?_drop]
  cases requests.drop k <;> rfl

theorem Session.after_take_succ :
    s.after d bench (requests.take (k + 1)) =
      (s.after d bench (requests.take k)).after d bench requests[k]?.toList := by
  rw [List.take_add_one, after, List.foldl_append]
  rfl

/-- A place without a malformed request leaves a session as it was. -/
theorem Session.after_take_of_wellFormed (wellFormed : WellFormedAt requests k) :
    s.after d bench (requests.take (k + 1)) = s.after d bench (requests.take k) := by
  rw [after_take_succ]
  cases here : requests[k]? with
  | none => rfl
  | some request => exact step_of_wellFormed (wellFormed request here)

theorem Session.after_take_of_between (ordered : i ≤ j)
    (wellFormed : ∀ k, i ≤ k → k < j → WellFormedAt requests k) :
    s.after d bench (requests.take j) = s.after d bench (requests.take i) := by
  induction ordered with
  | refl => rfl
  | @step j ordered ih =>
    rw [after_take_of_wellFormed (wellFormed j ordered (Nat.lt_succ_self j))]
    exact ih fun k first below => wellFormed k first (Nat.lt_succ_of_lt below)

/-- As long as all requests so far are well-formed a request is answered as if it were alone. -/
theorem Session.getElem?_replies_of_wellFormed (wellFormed : ∀ m ≤ k, WellFormedAt requests m) :
    (Session.replies {} d bench requests)[k]? = requests[k]?.map fun r => r.reply d bench := by
  have unclosed : Session.after {} d bench (requests.take k) = {} :=
    after_take_of_between (Nat.zero_le k) fun m _ below => wellFormed m (Nat.le_of_lt below)
  rw [getElem?_replies, unclosed]
  rfl

theorem Session.replies_of_closed :
    Session.replies ⟨false⟩ d bench requests = List.replicate requests.length .closed := by
  induction requests with
  | nil => rfl
  | cons request rest ih => exact congrArg (Reply.closed :: ·) ih

/-- From a malformed request on there are no replies. -/
theorem Session.drop_replies_of_malformed (malformed : ¬ WellFormedAt requests k) :
    (s.replies d bench requests).drop k = List.replicate (requests.length - k) .closed := by
  obtain ⟨request, here, closes⟩ : ∃ r ∈ requests[k]?, r.Malformed := by
    simpa only [WellFormedAt, not_forall, not_not, exists_prop] using malformed
  have rest : requests.drop k = request :: requests.drop (k + 1) := by
    rw [List.drop_eq_getElem?_toList_append, Option.mem_def.mp here]
    rfl
  rw [drop_replies, ← List.length_drop, rest, replies_cons, step_of_malformed closes,
    replies_of_closed]
  rfl

/-- Without a well-formed request all others are answered as before. -/
theorem Session.replies_eraseIdx (wellFormed : WellFormedAt requests i) :
    s.replies d bench (requests.eraseIdx i) = (s.replies d bench requests).eraseIdx i := by
  rw [List.eraseIdx_eq_take_drop_succ, List.eraseIdx_eq_take_drop_succ, replies_append,
    take_replies, drop_replies, after_take_of_wellFormed wellFormed]

section Exchanged

variable (first : WellFormedAt requests i) (second : WellFormedAt requests j)
include first second

theorem WellFormedAt.exchanged (here : WellFormedAt requests k) :
    WellFormedAt (exchange requests i j) k := by
  have swapped : WellFormedAt requests (Equiv.swap i j k) := by
    rwa [Equiv.apply_swap_eq_self (propext (iff_of_true first second))]
  intro request member
  rw [getElem?_exchange] at member
  obtain ⟨old, place, rfl⟩ := Option.map_eq_some_iff.mp member
  cases other : requests[Equiv.swap i j k]? with
  | none => exact here old place
  | some new => exact swapped new other

/-- An exchange of well-formed requests leaves the session before each place as it was. -/
theorem Session.after_take_exchange :
    s.after d bench ((exchange requests i j).take k) = s.after d bench (requests.take k) := by
  induction k with
  | zero => rfl
  | succ k ih =>
    by_cases exchanged : k = i ∨ k = j
    · have here : WellFormedAt requests k := by
        rcases exchanged with rfl | rfl
        · exact first
        · exact second
      have here' : WellFormedAt (exchange requests i j) k := .exchanged first second here
      rw [after_take_of_wellFormed here', after_take_of_wellFormed here, ih]
    · obtain ⟨apart, apart'⟩ := not_or.mp exchanged
      rw [after_take_succ, after_take_succ, ih, getElem?_exchange_of_ne apart apart']

theorem Session.getElem?_replies_exchange (apart : k ≠ i) (apart' : k ≠ j) :
    (s.replies d bench (exchange requests i j))[k]? = (s.replies d bench requests)[k]? := by
  rw [getElem?_replies, getElem?_replies, after_take_exchange first second,
    getElem?_exchange_of_ne apart apart']

end Exchanged

/-- If no malformed request stands between them either, the replies to two requests change their
places with them. -/
theorem Session.replies_exchange (ordered : i < j)
    (wellFormed : ∀ k, i ≤ k → k ≤ j → WellFormedAt requests k) :
    s.replies d bench (exchange requests i j) = exchange (s.replies d bench requests) i j := by
  have first := wellFormed i (Nat.le_refl i) (Nat.le_of_lt ordered)
  have second := wellFormed j (Nat.le_of_lt ordered) (Nat.le_refl j)
  have same : s.after d bench (requests.take j) = s.after d bench (requests.take i) :=
    after_take_of_between (Nat.le_of_lt ordered) fun k above below =>
      wellFormed k above (Nat.le_of_lt below)
  have swapped :=
    Equiv.apply_swap_eq_self (v := fun m => s.after d bench (requests.take m)) same.symm
  refine List.ext_getElem? fun k => ?_
  rw [getElem?_exchange, getElem?_replies, getElem?_replies, getElem?_replies, swapped,
    after_take_exchange first second, getElem?_exchange]
  cases requests[k]? with
  | none => rfl
  | some request => cases requests[Equiv.swap i j k]? <;> rfl

end Runs

/-- Replies to sequences of requests that do not influence one another. Up to the first
malformed request each reply is the one to the request alone, and from there on there is none.
A well-formed request may be left out, and two of them may change their places, and all others
are answered as before; so are those two, each at its new place, unless a malformed one stands
between them. -/
structure Independent (replies : List Request → List Reply) : Prop where
  length : ∀ requests, (replies requests).length = requests.length
  alone : ∀ requests i request, requests[i]? = some request →
    (∀ k ≤ i, WellFormedAt requests k) →
      ∃ log response, replies [request] = [.answered log response] ∧
        (replies requests)[i]? = some (.answered log response)
  closed : ∀ requests i, ¬ WellFormedAt requests i →
    (replies requests).drop i = List.replicate (requests.length - i) .closed
  dropped : ∀ requests i, WellFormedAt requests i →
    replies (requests.eraseIdx i) = (replies requests).eraseIdx i
  others : ∀ requests i j, WellFormedAt requests i → WellFormedAt requests j →
    ∀ k, k ≠ i → k ≠ j → (replies (exchange requests i j))[k]? = (replies requests)[k]?
  exchanged : ∀ requests i j, i < j → (∀ k, i ≤ k → k ≤ j → WellFormedAt requests k) →
    replies (exchange requests i j) = exchange (replies requests) i j

/-- The requests of a session do not influence one another. -/
theorem Session.replies_independent (d : Defaults) (bench : Bench) :
    Independent (Session.replies {} d bench) ∧ Reply.closed.log = [] ∧
    ¬ (Request.method "ping").Malformed ∧ ¬ (Request.method "tools/list").Malformed := by
  refine ⟨{ length := fun _ => length_replies
            alone := ?_
            closed := fun _ _ => drop_replies_of_malformed
            dropped := fun _ _ => replies_eraseIdx
            others := fun _ _ _ first second _ => getElem?_replies_exchange first second
            exchanged := fun _ _ _ => replies_exchange }, rfl, nofun, nofun⟩
  intro requests i request here wellFormed
  obtain ⟨log, response, answer⟩ : ∃ log response, request.reply d bench = _ :=
    Request.reply_of_wellFormed (wellFormed i (Nat.le_refl i) request here)
  rw [getElem?_replies_of_wellFormed wellFormed, here, Option.map_some, answer]
  exact ⟨log, response, congrArg (fun reply => [reply]) answer, rfl⟩

/-- Of two requests around a malformed one only that which comes first is answered. So an
exchange of the two does not only reorder the replies. -/
theorem Session.exchange_around_malformed :
    let replies := Session.replies {} {} ⟨fun _ => false, .offline⟩
    let requests : List Request :=
      [.method "ping", .call "host_ip" (.integer 5), .method "tools/list"]
    WellFormedAt requests 0 ∧ ¬ WellFormedAt requests 1 ∧ WellFormedAt requests 2 ∧
    exchange requests 0 2 =
      [.method "tools/list", .call "host_ip" (.integer 5), .method "ping"] ∧
    replies requests = [.answered [] (.value (.object [])), .closed, .closed] ∧
    replies (exchange requests 0 2) =
      [.answered [] (.value toolCatalogue), .closed, .closed] ∧
    ¬ (replies (exchange requests 0 2)).Perm (replies requests) := by
  intro replies requests
  have answered : replies requests = [.answered [] (.value (.object [])), .closed, .closed] := rfl
  have answered' : replies (exchange requests 0 2) =
      [.answered [] (.value toolCatalogue), .closed, .closed] := rfl
  refine ⟨?_, ?_, ?_, rfl, answered, answered', fun reordered => ?_⟩
  · rintro request ⟨⟩
    exact nofun
  · intro wellFormed
    exact wellFormed (.call "host_ip" (.integer 5)) rfl ⟨nofun, nofun⟩
  · rintro request ⟨⟩
    exact nofun
  · have member := reordered.mem_iff.mp (answered' ▸ List.mem_cons_self ..)
    rw [answered] at member
    simp [toolCatalogue] at member

end DutFixtures
