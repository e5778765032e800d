import MailAudit.Proofs.Batch.Step

namespace MailAudit.Batch.Pipeline

variable {ε ρ σ : Type} {check : String → σ → ρ × σ} {p q : Pipeline ε ρ σ} {m : Move}

def CanMove (check : String → σ → ρ × σ) (p : Pipeline ε ρ σ) : Prop :=
  ∃ m, m ≠ .cancel ∧ (p.step? check m).isSome = true

def Closed (p : Pipeline ε ρ σ) : Prop :=
  p.collector = .finished → p.allFinished = true ∧ p.results = []

theorem capacity_pos (h : p.workers ≠ []) : 0 < p.capacity :=
  Nat.mul_pos (by decide) (List.length_pos_iff.mpr h)

theorem canMove_of_turn {i : Nat} {w : Worker ρ} (hw : p.workers[i]? = some w)
    (ha : w.activity = .receiving) (hf : p.allFinished = false) (hpos : p.workers ≠ []) :
    CanMove check p := by
  cases hs : p.stopped with
  | true => exact ⟨.leave i, by simp, by simp [step?, leave?, act?, hw, ha, hs]⟩
  | false =>
      cases hq : p.queue with
      | cons domain queue =>
        exact ⟨.receive i, by simp, by simp [step?, receive?, act?, hw, ha, hq, hs]⟩
      | nil =>
          -- An empty queue has room, so that only an ended producer leaves nothing to wait for.
          cases hp : p.producer with
          | reading =>
              refine ⟨.read, by simp, ?_⟩
              cases hi : p.input <;> simp [step?, read?, hp, hi]
          | offering domain =>
              exact ⟨.offer, by simp, by simp [step?, offer?, hp, hq, hf, capacity_pos hpos]⟩
          | finished =>
              exact ⟨.leave i, by simp,
                by simp [step?, leave?, act?, hw, ha, hq, hp, Producer.isDone]⟩
          | failed row e =>
              exact ⟨.leave i, by simp,
                by simp [step?, leave?, act?, hw, ha, hq, hp, Producer.isDone]⟩

theorem canMove_of_worker (hf : p.allFinished = false) (hr : p.results = [])
    (hpos : p.workers ≠ []) : CanMove check p := by
  by_cases ht : p.turnTaken = true
  · obtain ⟨w, hw, ha⟩ := List.any_eq_true.mp ht
    obtain ⟨i, hi⟩ := List.mem_iff_getElem?.mp hw
    cases hact : w.activity with
    | receiving => exact canMove_of_turn hi hact hf hpos
    | _ => simp [hact, Activity.isReceiving] at ha
  · have ht : p.turnTaken = false := Bool.eq_false_iff.mpr ht
    obtain ⟨w, hw, ha⟩ := List.all_eq_false.mp hf
    obtain ⟨i, hi⟩ := List.mem_iff_getElem?.mp hw
    cases hact : w.activity with
    | idle => exact ⟨.takeTurn i, by simp, by simp [step?, takeTurn?, act?, hi, hact, ht]⟩
    | receiving => exact canMove_of_turn hi hact hf hpos
    | checking domain =>
        cases hs : p.stopped with
        | true => exact ⟨.abandon i, by simp, by simp [step?, abandon?, act?, hi, hact, hs]⟩
        | false => exact ⟨.complete i, by simp, by simp [step?, complete?, act?, hi, hact, hs]⟩
    | offering report =>
        exact ⟨.send i, by simp, by simp [step?, send?, act?, hi, hact, hr, capacity_pos hpos]⟩
    | finished => simp [hact, Activity.isFinished] at ha

theorem canMove_of_not_final (hc : Closed p) (hpos : p.workers ≠ []) (h : ¬ p.Final) :
    CanMove check p := by
  cases hcol : p.collector with
  | handling report => exact ⟨.handle, by simp, by simp [step?, handle?, hcol]⟩
  | waiting =>
      cases hr : p.results with
      | cons report results => exact ⟨.collect, by simp, by simp [step?, collect?, hcol, hr]⟩
      | nil =>
          cases hf : p.allFinished with
          | true => exact ⟨.close, by simp, by simp [step?, close?, hcol, hr, hf]⟩
          | false => exact canMove_of_worker hf hr hpos
  | finished =>
      have hf : p.allFinished = true := (hc hcol).1
      cases hp : p.producer with
      | reading =>
          refine ⟨.read, by simp, ?_⟩
          cases hi : p.input <;> simp [step?, read?, hp, hi]
      | offering domain => exact ⟨.giveUp, by simp, by simp [step?, giveUp?, hp, hf]⟩
      | finished => exact absurd ⟨hcol, hf, by rw [hp]; rfl⟩ h
      | failed row e => exact absurd ⟨hcol, hf, by rw [hp]; rfl⟩ h

theorem isFinished_of_allFinished {i : Nat} {w : Worker ρ} (hf : p.allFinished = true)
    (hw : p.workers[i]? = some w) : w.activity.isFinished = true :=
  List.all_eq_true.mp hf w (List.mem_of_getElem? hw)

theorem act?_eq_none {i : Nat} {next? : Worker ρ → Activity ρ → Option (Pipeline ε ρ σ)}
    (hf : p.allFinished = true) (h : ∀ w, next? w .finished = none) : p.act? i next? = none := by
  simp only [act?]
  split
  · rfl
  · rename_i w hw
    have hfin : w.activity.isFinished = true := isFinished_of_allFinished hf hw
    cases ha : w.activity with
    | finished => exact h w
    | _ => simp [ha, Activity.isFinished] at hfin

theorem not_canMove_of_final (h : p.Final) : ¬ CanMove check p := by
  obtain ⟨hcol, hf, hdone⟩ := h
  have hproducer : p.producer = .finished ∨ ∃ row e, p.producer = .failed row e := by
    cases hp : p.producer <;> simp [hp, Producer.isDone] at hdone ⊢
  rintro ⟨m, hm, hsome⟩
  have hnone : p.step? check m = none := by
    cases m with
    | read => rcases hproducer with hp | ⟨row, e, hp⟩ <;> simp [step?, read?, hp]
    | offer => rcases hproducer with hp | ⟨row, e, hp⟩ <;> simp [step?, offer?, hp]
    | giveUp => rcases hproducer with hp | ⟨row, e, hp⟩ <;> simp [step?, giveUp?, hp]
    | takeTurn i =>
        simp only [step?, takeTurn?]
        exact act?_eq_none hf fun _ => rfl
    | receive i =>
        simp only [step?, receive?]
        exact act?_eq_none hf fun _ => rfl
    | leave i =>
        simp only [step?, leave?]
        exact act?_eq_none hf fun _ => rfl
    | complete i =>
        simp only [step?, complete?]
        exact act?_eq_none hf fun _ => rfl
    | abandon i =>
        simp only [step?, abandon?]
        exact act?_eq_none hf fun _ => rfl
    | send i =>
        simp only [step?, send?]
        exact act?_eq_none hf fun _ => rfl
    | collect => simp [step?, collect?, hcol]
    | handle => simp [step?, handle?, hcol]
    | close => simp [step?, close?, hcol]
    | cancel => exact absurd rfl hm
  rw [hnone] at hsome
  cases hsome

theorem closed_step (hc : Closed p) (h : Step check p m q) : Closed q := by
  -- A worker that still moves has not finished, so that the collector has not either.
  have open_of {i : Nat} {w : Worker ρ} (hw : p.workers[i]? = some w)
      (ha : w.activity.isFinished = false) (hcol : p.collector = .finished) : False := by
    have hfin : w.activity.isFinished = true := isFinished_of_allFinished (hc hcol).1 hw
    rw [ha] at hfin
    cases hfin
  cases h with
  | takeTurn hw ha ht => exact fun hcol => (open_of hw (by rw [ha]; rfl) hcol).elim
  | receive hw ha hq hs => exact fun hcol => (open_of hw (by rw [ha]; rfl) hcol).elim
  | leave hw ha hs => exact fun hcol => (open_of hw (by rw [ha]; rfl) hcol).elim
  | complete hw ha hs => exact fun hcol => (open_of hw (by rw [ha]; rfl) hcol).elim
  | abandon hw ha hs => exact fun hcol => (open_of hw (by rw [ha]; rfl) hcol).elim
  | send hw ha hr => exact fun hcol => (open_of hw (by rw [ha]; rfl) hcol).elim
  | collect hcol hr => exact nofun
  | handle hcol => exact nofun
  | close hcol hr hf => exact fun _ => ⟨hf, hr⟩
  | _ => exact hc

end MailAudit.Batch.Pipeline
