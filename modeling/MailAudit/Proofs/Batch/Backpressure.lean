import MailAudit.Proofs.Batch.Delivery

namespace MailAudit.Batch

namespace Move

def beginsCheck : Move → Bool
  | receive _ => true
  | _ => false

def endsCheck : Move → Bool
  | complete _ => true
  | abandon _ => true
  | _ => false

end Move

section Places

variable {ε ρ : Type}

theorem Producer.card_inHand_le (producer : Producer ε) : Multiset.card producer.inHand ≤ 1 := by
  cases producer <;> simp [inHand]

theorem Activity.card_held_le (activity : Activity ρ) :
    Multiset.card activity.underCheck + Multiset.card activity.ready ≤ 1 := by
  cases activity <;> simp [underCheck, ready]

theorem Collector.card_inHand_le (collector : Collector ρ) :
    Multiset.card collector.inHand ≤ 1 := by
  cases collector <;> simp [inHand]

theorem card_held_le (workers : List (Worker ρ)) :
    Multiset.card (underCheck workers) + Multiset.card (ready workers) ≤ workers.length := by
  induction workers with
  | nil => exact Nat.le_refl 0
  | cons w rest ih =>
    have hone := w.activity.card_held_le
    simp only [underCheck, ready, List.map_cons, List.sum_cons, Multiset.card_add,
      List.length_cons] at ih ⊢
    omega

theorem card_underCheck_set {workers : List (Worker ρ)} {i : Nat} {w : Worker ρ}
    (hw : workers[i]? = some w) (v : Worker ρ) :
    Multiset.card (underCheck (workers.set i v)) + Multiset.card w.activity.underCheck =
      Multiset.card (underCheck workers) + Multiset.card v.activity.underCheck := by
  rw [← Multiset.card_add, underCheck_set hw, Multiset.card_add]

end Places

namespace Pipeline

variable {ε ρ σ : Type} {check : String → σ → ρ × σ} {p q : Pipeline ε ρ σ} {m : Move}
  {ms : List Move} {rows : List (Except ε (List String))} {done : List (String × ρ)}

def checking (p : Pipeline ε ρ σ) : Nat := Multiset.card (underCheck p.workers)

def handling (p : Pipeline ε ρ σ) : Nat := Multiset.card p.collector.inHand

/-- How many usable rows have been read, and neither handled nor dropped. -/
def inFlight (p : Pipeline ε ρ σ) : Nat := Multiset.card p.awaiting + Multiset.card p.undelivered

structure Bounded (poolSize : Nat) (p : Pipeline ε ρ σ) : Prop where
  workers : p.workers.length = poolSize
  queue : p.queue.length ≤ 2 * poolSize
  results : p.results.length ≤ 2 * poolSize

theorem bounded_start (column poolSize : Nat) (cancelled : Bool) (world : σ) :
    Bounded poolSize (start column poolSize cancelled rows world : Pipeline ε ρ σ) :=
  ⟨List.length_replicate, Nat.zero_le _, Nat.zero_le _⟩

theorem Bounded.capacity_eq {poolSize : Nat} (hb : Bounded poolSize p) :
    p.capacity = 2 * poolSize := by
  rw [capacity, hb.workers]
  rfl

theorem bounded_step {poolSize : Nat} (hb : Bounded poolSize p) (h : Step check p m q) :
    Bounded poolSize q := by
  obtain ⟨hworkers, hqueue, hresults⟩ := hb
  have hset (i : Nat) (v : Worker ρ) : (p.workers.set i v).length = poolSize :=
    List.length_set.trans hworkers
  cases h with
  | offer hp hroom hw =>
    rw [Bounded.capacity_eq ⟨hworkers, hqueue, hresults⟩] at hroom
    refine ⟨hworkers, ?_, hresults⟩
    rw [List.length_append, List.length_singleton]
    exact hroom
  | takeTurn hw ha ht => exact ⟨hset _ _, hqueue, hresults⟩
  | receive hw ha hq hs =>
    rw [hq, List.length_cons] at hqueue
    exact ⟨hset _ _, Nat.le_of_succ_le hqueue, hresults⟩
  | leave hw ha hs => exact ⟨hset _ _, hqueue, hresults⟩
  | complete hw ha hs => exact ⟨hset _ _, hqueue, hresults⟩
  | abandon hw ha hs => exact ⟨hset _ _, hqueue, hresults⟩
  | send hw ha hroom =>
    rw [Bounded.capacity_eq ⟨hworkers, hqueue, hresults⟩] at hroom
    refine ⟨hset _ _, hqueue, ?_⟩
    rw [List.length_append, List.length_singleton]
    exact hroom
  | collect hc hr =>
    rw [hr, List.length_cons] at hresults
    exact ⟨hworkers, hqueue, Nat.le_of_succ_le hresults⟩
  | _ => exact ⟨hworkers, hqueue, hresults⟩

theorem Run.bounded {poolSize : Nat} (hb : Bounded poolSize p) (h : Run check p ms done q) :
    Bounded poolSize q := by
  induction h with
  | refl => exact hb
  | tail _ hstep ih => exact bounded_step ih (step_of_step? hstep)

theorem Bounded.checking_le {poolSize : Nat} (hb : Bounded poolSize p) : p.checking ≤ poolSize := by
  have hheld := card_held_le p.workers
  rw [hb.workers] at hheld
  exact Nat.le_of_add_right_le hheld

theorem Bounded.inFlight_le {poolSize : Nat} (hb : Bounded poolSize p) :
    p.inFlight ≤ 5 * poolSize + 2 := by
  have hproducer := p.producer.card_inHand_le
  have hheld := card_held_le p.workers
  have hcollector := p.collector.card_inHand_le
  obtain ⟨hworkers, hqueue, hresults⟩ := hb
  simp only [inFlight, awaiting, undelivered, Multiset.card_add, Multiset.coe_card]
  omega

theorem checking_step (h : Step check p m q) :
    p.checking + [m].countP Move.beginsCheck = q.checking + [m].countP Move.endsCheck := by
  have hset {i begun ended : Nat} {w v : Worker ρ} (hw : p.workers[i]? = some w)
      (hended : Multiset.card w.activity.underCheck = ended)
      (hbegun : Multiset.card v.activity.underCheck = begun) :
      p.checking + begun = Multiset.card (underCheck (p.workers.set i v)) + ended := by
    rw [← hended, ← hbegun]
    exact (card_underCheck_set hw v).symm
  cases h with
  | takeTurn hw ha ht => exact hset hw (by rw [ha]; rfl) rfl
  | receive hw ha hq hs => exact hset hw (by rw [ha]; rfl) rfl
  | leave hw ha hs => exact hset hw (by rw [ha]; rfl) rfl
  | complete hw ha hs => exact hset hw (by rw [ha]; rfl) rfl
  | abandon hw ha hs => exact hset hw (by rw [ha]; rfl) rfl
  | send hw ha hr => exact hset hw (by rw [ha]; rfl) rfl
  | _ => rfl

theorem handling_step (h : Step check p m q) :
    p.handling + [m].count .collect = q.handling + [m].count .handle := by
  simp only [handling]
  cases h with
  | collect hc hr =>
    rw [hc]
    rfl
  | handle hc =>
    rw [hc]
    rfl
  | close hc hr hw =>
    rw [hc]
    rfl
  | _ => simp

theorem Run.checking_eq (h : Run check p ms done q) :
    p.checking + ms.countP Move.beginsCheck = q.checking + ms.countP Move.endsCheck := by
  induction h with
  | refl => rfl
  | tail _ hstep ih =>
    have hone := checking_step (step_of_step? hstep)
    rw [List.countP_append, List.countP_append]
    omega

theorem Run.handling_eq (h : Run check p ms done q) :
    p.handling + ms.count .collect = q.handling + ms.count .handle := by
  induction h with
  | refl => rfl
  | tail _ hstep ih =>
    have hone := handling_step (step_of_step? hstep)
    rw [List.count_append, List.count_append]
    omega

theorem Run.exists_lost (hs : Sound rows [] p) (hc : Conserved rows [] 0 p)
    (h : Run check p ms done q) :
    ∃ lost, Multiset.card lost = ms.countP Move.drops ∧ Conserved rows done lost q := by
  induction h with
  | refl => exact ⟨0, rfl, hc⟩
  | @tail ms done q m r hrun hstep ih =>
    obtain ⟨lost, hcard, hlost⟩ := ih
    have hsound := hrun.sound hs
    obtain ⟨lost', hcard', hlost'⟩ :=
      conserved_step hlost hsound.reading hsound.drained hsound.manned (step_of_step? hstep)
    refine ⟨lost', ?_, hlost'⟩
    rw [hcard', hcard, List.countP_append]

theorem checking_start (column poolSize : Nat) (cancelled : Bool) (world : σ) :
    (start column poolSize cancelled rows world : Pipeline ε ρ σ).checking = 0 := by
  simp [checking, start, underCheck, Activity.underCheck]

theorem Run.rows_balance (hs : Sound rows [] p) (hc : Conserved rows [] 0 p) (hp : p.handled = [])
    (h : Run check p ms done q) :
    (usable q.column (rows.take q.rowsRead)).length =
        q.inFlight + ms.count .handle + ms.countP Move.drops ∧
      (ms.countP Move.drops ≠ 0 → q.stopped = true) := by
  obtain ⟨lost, hcard, hlost⟩ := h.exists_lost hs hc
  have hdelivered : (↑(done.map Prod.snd) : Multiset ρ) = q.undelivered + ↑q.handled :=
    (h.sound hs).delivered
  have hhandled := h.length_handled
  have hread := congrArg Multiset.card hlost.domains
  have hdone := congrArg Multiset.card hdelivered
  rw [hp, List.length_nil, Nat.zero_add] at hhandled
  simp only [Multiset.card_add, Multiset.coe_card, List.length_map] at hread hdone
  refine ⟨?_, fun hdrops => ?_⟩
  · rw [inFlight]
    omega
  · cases hgo : q.stopped with
    | true => rfl
    | false =>
      rw [hlost.kept hgo, Multiset.card_zero] at hcard
      exact absurd hcard.symm hdrops

/-- At every step of a run at most as many checks are under way as there are workers, one report is
being handled, the queues keep to their bounds, and so do the rows in flight. Rows are dropped only
once the run has been stopped. -/
theorem rows_in_flight_are_bounded (check : String → σ → ρ × σ) (column : Nat) {poolSize : Nat}
    (hpool : 1 ≤ poolSize) (rows : List (Except ε (List String))) (cancelled : Bool) (world : σ)
    (h : Run check (start column poolSize cancelled rows world) ms done q) :
    (ms.countP Move.beginsCheck = q.checking + ms.countP Move.endsCheck ∧ q.checking ≤ poolSize) ∧
    (ms.count .collect = q.handling + ms.count .handle ∧ q.handling ≤ 1) ∧
    q.queue.length ≤ 2 * poolSize ∧ q.results.length ≤ 2 * poolSize ∧
    (usable column (rows.take q.rowsRead)).length =
      q.inFlight + ms.count .handle + ms.countP Move.drops ∧
    (ms.countP Move.drops ≠ 0 → q.stopped = true) ∧
    q.inFlight ≤ 5 * poolSize + 2 := by
  have hbounded : Bounded poolSize q := h.bounded (bounded_start column poolSize cancelled world)
  have hchecking := h.checking_eq
  have hhandling := h.handling_eq
  obtain ⟨hrows, hdrops⟩ :=
    h.rows_balance (sound_start hpool) (conserved_start column poolSize cancelled world) rfl
  have hcolumn : q.column = column := h.column_eq
  rw [checking_start, Nat.zero_add] at hchecking
  rw [show (start column poolSize cancelled rows world : Pipeline ε ρ σ).handling = 0 from rfl,
    Nat.zero_add] at hhandling
  rw [hcolumn] at hrows
  exact ⟨⟨hchecking, hbounded.checking_le⟩, ⟨hhandling, q.collector.card_inHand_le⟩, hbounded.queue,
    hbounded.results, hrows, hdrops, hbounded.inFlight_le⟩

theorem seven_rows_are_in_flight_with_one_worker :
    ∃ (ms : List Move) (done : List (String × Nat)) (q : Pipeline Unit Nat Unit),
      1 ≤ 1 ∧
      Run (fun domain w => (domain.length, w))
        (start 0 1 false
          ([["a"], ["b"], [" "], ["c"], ["d"], ["e"], ["f"], ["g"], ["h"], ["i"]].map .ok)
            ()) ms done q ∧
      ms.count .handle = 1 ∧ ms.countP Move.drops = 0 ∧ q.rowsRead = 9 ∧ q.inFlight = 7 ∧
      q.inFlight ≤ 5 * 1 + 2 := by
  -- The collector has the second report in hand, two more wait behind it and one with the worker.
  have hfollow : (start 0 1 false
        ([["a"], ["b"], [" "], ["c"], ["d"], ["e"], ["f"], ["g"], ["h"], ["i"]].map .ok) () :
        Pipeline Unit Nat Unit).follow? (fun domain w => (domain.length, w))
      [.read, .offer, .takeTurn 0, .receive 0, .complete 0, .send 0, .collect, .handle,
        .read, .offer, .takeTurn 0, .receive 0, .complete 0, .send 0, .collect, .read,
        .read, .offer, .takeTurn 0, .receive 0, .complete 0, .send 0,
        .read, .offer, .takeTurn 0, .receive 0, .complete 0, .send 0,
        .read, .offer, .takeTurn 0, .receive 0, .complete 0,
        .read, .offer, .read, .offer, .read] = some (_, _) := rfl
  have hrun := run_of_follow? hfollow
  obtain ⟨-, -, -, -, hrows, -, hbound⟩ := rows_in_flight_are_bounded _ 0 le_rfl _ false () hrun
  exact ⟨_, _, _, le_rfl, hrun, by decide, by decide, rfl,
    (Nat.add_right_cancel hrows).symm, hbound⟩

end Pipeline

end MailAudit.Batch
