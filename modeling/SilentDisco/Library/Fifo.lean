import SilentDisco.Library.Runs

/-!
# Consumers behind a queue

Producers append items to a queue, and a consumer serves them in order. Each item is answered as
it would be if the consumer had served the whole queue at the moment it was sent. A system with
such a queue can therefore be treated as if it handed its items over directly.

## Main definitions

* `Line`: a consumer and the items in front of it
* `Line.settled`: the consumer once all items are served
* `Line.Move`: a step of a system, as far as the line is concerned

## Main results

* `Line.settled_send`, `Line.settled_serveNext`: only sending an item changes the settled consumer
* `Line.answer_of_sent`: how an item that was sent is answered in a run
-/

/-- A consumer and the items in front of it. -/
structure Line (κ φ : Type) where
  consumer : κ
  queue : List φ := []
  deriving DecidableEq

namespace Line

variable {κ φ ρ : Type}

/-- An item that was served: the consumer after it, and the answer. -/
structure Served (κ φ ρ : Type) where
  item : φ
  consumer : κ
  answer : ρ
  deriving DecidableEq

/-- Append an item. -/
def send (line : Line κ φ) (item : φ) : Line κ φ := { line with queue := line.queue ++ [item] }

variable (serve : κ → φ → κ × ρ)

/-- Serve an item. -/
def served (consumer : κ) (item : φ) : Served κ φ ρ :=
  ⟨item, (serve consumer item).1, (serve consumer item).2⟩

/-- The consumer after some items. -/
def settle (consumer : κ) (items : List φ) : κ :=
  items.foldl (fun consumer item => (serve consumer item).1) consumer

/-- The consumer once all items are served. -/
def settled (line : Line κ φ) : κ := settle serve line.consumer line.queue

/-- Serve the first item, if there is one. -/
def serveNext (line : Line κ φ) : Line κ φ × Option (Served κ φ ρ) :=
  match line.queue with
  | [] => (line, none)
  | item :: rest =>
    (⟨(serve line.consumer item).1, rest⟩, some (served serve line.consumer item))

/-- What a step of a system can do to the line. -/
inductive Move (line : Line κ φ) : Line κ φ → Option (Served κ φ ρ) → Prop
  | idle : Move line line none
  | send (item : φ) : Move line (line.send item) none
  | serve {item : φ} {rest : List φ} (h : line.queue = item :: rest) :
      Move line ⟨(serve line.consumer item).1, rest⟩ (some (served serve line.consumer item))

variable {serve} {line line' : Line κ φ}

theorem settled_send (item : φ) :
    (line.send item).settled serve = (serve (line.settled serve) item).1 :=
  List.foldl_append

theorem move_serveNext (line : Line κ φ) :
    Move serve line (line.serveNext serve).1 (line.serveNext serve).2 := by
  unfold serveNext
  split
  · exact .idle
  · next h => exact .serve h

/-- Serving does not change the settled consumer. -/
theorem settled_serve {item : φ} {rest : List φ} (h : line.queue = item :: rest) :
    settled serve ⟨(serve line.consumer item).1, rest⟩ = line.settled serve := by
  unfold settled
  rw [h]
  rfl

theorem settled_serveNext : (line.serveNext serve).1.settled serve = line.settled serve := by
  unfold serveNext
  split
  · rfl
  · next h => exact settled_serve h

section System

variable {σ ι ω : Type} {M : Machine σ ι ω} {I : σ → Prop} {view : σ → Line κ φ}
  {answer : ω → Option (Served κ φ ρ)}

/-- The items that a run serves. -/
abbrev servedBy (M : Machine σ ι ω) (answer : ω → Option (Served κ φ ρ)) (s : σ) (xs : List ι) :
    List (Served κ φ ρ) :=
  (M.outputs s xs).filterMap answer

variable (hstep : ∀ s x, I s → I (M.next s x))
  (hmove : ∀ s x, I s → Move serve (view s) (view (M.next s x)) (answer (M.out s x)))

include hstep hmove

/-- An item is answered after the items ahead of it, by the consumer that has served them. -/
theorem queued_cases {s : σ} (hs : I s) {ahead behind : List φ} {item : φ}
    (hqueue : (view s).queue = ahead ++ item :: behind) (xs : List ι) :
    (servedBy M answer s xs)[ahead.length]? =
        some (served serve (settle serve (view s).consumer ahead) item) ∨
      I (M.after s xs) ∧ ∃ ahead' behind', (view (M.after s xs)).queue = ahead' ++ item :: behind' ∧
        (servedBy M answer s xs).length + ahead'.length = ahead.length := by
  induction xs generalizing s ahead behind with
  | nil => exact .inr ⟨hs, ahead, behind, hqueue, Nat.zero_add _⟩
  | cons x xs ih =>
    rw [servedBy, Machine.outputs, List.filterMap_cons, Machine.after_cons]
    have hm := hmove s x hs
    have ih := @ih (M.next s x) (hstep s x hs)
    generalize view (M.next s x) = line', answer (M.out s x) = result at hm ih
    cases hm with
    | idle => exact ih hqueue
    | send added =>
      refine @ih ahead (behind ++ [added]) ?_
      rw [send, hqueue, List.append_assoc, List.cons_append]
    | serve hhead =>
      rw [hhead] at hqueue
      cases ahead with
      | nil =>
        obtain ⟨rfl, -⟩ := List.cons.inj hqueue
        exact .inl rfl
      | cons first ahead =>
        obtain ⟨rfl, hrest⟩ := List.cons.inj hqueue
        obtain hanswered | ⟨hs', ahead', behind', hqueue', hlength⟩ := ih hrest
        · exact .inl hanswered
        · refine .inr ⟨hs', ahead', behind', hqueue', ?_⟩
          rw [List.length_cons, List.length_cons, Nat.succ_add, hlength]

/-- Enough further steps of the consumer answer the item. -/
theorem answer_of_queued {d : ι}
    (hserves : ∀ s, I s → (view s).queue ≠ [] → answer (M.out s d) ≠ none) {s : σ} (hs : I s)
    {ahead behind : List φ} {item : φ} (hqueue : (view s).queue = ahead ++ item :: behind)
    (xs : List ι) :
    (servedBy M answer s (xs ++ List.replicate (ahead.length + 1) d))[ahead.length]? =
      some (served serve (settle serve (view s).consumer ahead) item) := by
  have hprogress (k : ℕ) : ahead.length < (servedBy M answer s (xs ++ List.replicate k d)).length ∨
      k ≤ (servedBy M answer s (xs ++ List.replicate k d)).length := by
    induction k with
    | zero => exact .inr (Nat.zero_le _)
    | succ k ih =>
      rw [List.replicate_succ', ← List.append_assoc, servedBy, Machine.outputs_append,
        List.filterMap_append, List.length_append]
      obtain hanswered | ⟨hs', ahead', behind', hqueue', -⟩ :=
        queued_cases hstep hmove hs hqueue (xs ++ List.replicate k d)
      · obtain ⟨hlt, -⟩ := List.getElem?_eq_some_iff.mp hanswered
        exact .inl (Nat.lt_add_right _ hlt)
      · obtain ⟨answered, hsome⟩ := Option.ne_none_iff_exists'.mp
          (hserves _ hs' (by rw [hqueue']; simp))
        rw [Machine.outputs, Machine.outputs, List.filterMap_cons_some hsome]
        exact ih.imp (Nat.lt_add_right _) Nat.succ_le_succ
  obtain hanswered | ⟨-, ahead', behind', -, hlength⟩ :=
    queued_cases hstep hmove hs hqueue (xs ++ List.replicate (ahead.length + 1) d)
  · exact hanswered
  · have hlate := hprogress (ahead.length + 1)
    omega

/-- An item that a step sends is answered by the consumer that has served all before it: if it is
answered, and once the consumer has taken enough further steps. -/
theorem answer_of_sent {d : ι}
    (hserves : ∀ s, I s → (view s).queue ≠ [] → answer (M.out s d) ≠ none) {s : σ} (hs : I s)
    {x : ι} {item : φ} (hsend : view (M.next s x) = (view s).send item)
    (hnone : answer (M.out s x) = none) (xs : List ι) :
    (∀ answered, (servedBy M answer s (x :: xs))[(view s).queue.length]? = some answered →
      answered = served serve ((view s).settled serve) item) ∧
    ∃ k, (servedBy M answer s (x :: (xs ++ List.replicate k d)))[(view s).queue.length]? =
      some (served serve ((view s).settled serve) item) := by
  have hqueue : (view (M.next s x)).queue = (view s).queue ++ item :: [] := by rw [hsend, send]
  have hconsumer : (view (M.next s x)).consumer = (view s).consumer := by rw [hsend, send]
  simp only [servedBy, Machine.outputs, List.filterMap_cons_none hnone, settled, ← hconsumer]
  refine ⟨fun answered h => ?_, _, answer_of_queued hstep hmove hserves (hstep s x hs) hqueue xs⟩
  obtain hanswered | ⟨-, ahead', behind', -, hlength⟩ :=
    queued_cases hstep hmove (hstep s x hs) hqueue xs
  · exact Option.some.inj (h.symm.trans hanswered)
  · obtain ⟨hlt, -⟩ := List.getElem?_eq_some_iff.mp h
    exact absurd (Nat.le_of_add_right_le hlength.le) (Nat.not_le.mpr hlt)

end System

end Line
