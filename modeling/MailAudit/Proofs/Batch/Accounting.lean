import MailAudit.Proofs.Batch.JsonLines
import MailAudit.Proofs.Json.Interrupted

/-! How the counts of a writer of lines go with the lines that its sink has got. A line that a gone
reader cuts off is counted as written, and so is a line behind the beginning of another, which gives
back no report. -/

namespace MailAudit

open Text

namespace DomainReport

def lineText (r : DomainReport) : List Char := r.toJson.writes.flatten

theorem line_eq_encode (r : DomainReport) : r.line = Utf8.encode (String.ofList r.lineText) := rfl

theorem lineFeed_notMem_lineText (r : DomainReport) : '\n' ∉ r.lineText :=
  r.plain_toJson.lineFeed_notMem_writes

theorem exists_writes_eq_cons (r : DomainReport) : ∃ rest, r.toJson.writes = ['\x7b'] :: rest := by
  rw [toJson_eq]
  exact ⟨_, rfl⟩

theorem ofLine?_interrupted (r : DomainReport) (before : List Char) :
    ofLine? (Utf8.encode (String.ofList ('\x7b' :: before ++ r.lineText))) = none := by
  have hname : Json.Bare "domain".toList := ⟨nofun, List.all_eq_true.mp rfl, rfl⟩
  have hplain := r.plain_toJson
  rw [toJson_eq] at hplain
  have hnone := Json.parse?_interrupted hplain hname before
  rw [← fields, ← toJson_eq] at hnone
  rw [ofLine?, Utf8.decode?_encode, Option.bind_some, read?, lineText, hnone, Option.bind_none]

theorem ofLine?_begun (r : DomainReport) {begun : List Char}
    (hbrace : ∀ c ∈ begun.head?, c = '\x7b') :
    ofLine? (Utf8.encode (String.ofList (begun ++ r.lineText))) =
      if begun = [] ∧ r.toJson.depth ≤ Json.nestingLimit then some r else none := by
  cases begun with
  | nil =>
      have hread : read? r.print = Json.within Json.nestingLimit r.toJson r :=
        Stored.domain.read?_print r
      rw [List.nil_append, ← line_eq_encode, ofLine?, line, Utf8.decode?_encode,
        Option.bind_some, hread, Json.within]
      simp
  | cons c begun =>
      -- Every line begins with a brace, so that what stands before the report is the beginning of
      -- another.
      obtain rfl : c = '\x7b' := hbrace c rfl
      rw [ofLine?_interrupted, if_neg fun h => List.cons_ne_nil _ _ h.1]

end DomainReport

namespace Batch

namespace Sink

def lines (s : Sink) : List (List UInt8) := (s.bytes.splitOn 10).dropLast

def reports (s : Sink) : List DomainReport := s.lines.filterMap DomainReport.ofLine?

def AtLineStart (s : Sink) : Prop := ∀ c ∈ s.content.getLast?, c = '\n'

variable {s : Sink} {ended : List (List Char)} {begun : List Char}

theorem exists_take_of_writeAll (s : Sink) (texts : List (List Char)) :
    ∃ k, (s.writeAll texts).1.held = (texts.take k).reverse ++ s.held ∧
      ((s.writeAll texts).2 = .ok () → k = texts.length) ∧
      ∀ fault, (s.writeAll texts).2 = .error fault → k < texts.length := by
  induction texts generalizing s with
  | nil =>
      refine ⟨0, rfl, fun _ => rfl, fun fault hfault => ?_⟩
      cases hfault
  | cons text rest ih =>
      cases hrefusal : s.refusal s.held s.attempts with
      | some fault =>
          have hwrite : s.write text = ({ s with attempts := s.attempts + 1 }, .error fault) := by
            simp only [write, hrefusal]
          simp only [writeAll, hwrite]
          refine ⟨0, rfl, fun hok => ?_, fun _ _ => Nat.succ_pos _⟩
          cases hok
      | none =>
          have hwrite : s.write text =
              ({ s with held := text :: s.held, attempts := s.attempts + 1 }, .ok ()) := by
            simp only [write, hrefusal]
          obtain ⟨k, hheld, hall, hsome⟩ :=
            ih { s with held := text :: s.held, attempts := s.attempts + 1 }
          simp only [writeAll, hwrite]
          refine ⟨k + 1, ?_, fun h => congrArg (· + 1) (hall h),
            fun fault h => Nat.succ_lt_succ (hsome fault h)⟩
          rw [hheld, List.take_succ_cons, List.reverse_cons, List.append_assoc,
            List.singleton_append]

/-- What a sink has got: whole lines, and then perhaps the beginning of one. -/
structure Ledger (s : Sink) (ended : List (List Char)) (begun : List Char) : Prop where
  content : s.content = ended.flatMap (· ++ ['\n']) ++ begun
  noLineFeed : ∀ l ∈ begun :: ended, '\n' ∉ l
  brace : ∀ c ∈ begun.head?, c = '\x7b'

theorem Ledger.lines_eq (hl : Ledger s ended begun) :
    s.lines = ended.map fun l => Utf8.encode (String.ofList l) := by
  have hfree {cs : List Char} (h : '\n' ∉ cs) : 10 ∉ Utf8.encode (String.ofList cs) := by
    rwa [Utf8.lineFeed_mem_encode_iff, String.toList_ofList]
  have hbytes : s.bytes =
      (ended.map fun l => Utf8.encode (String.ofList l)).flatMap (· ++ [10]) ++
        Utf8.encode (String.ofList begun) := by
    rw [bytes, hl.content, String.ofList_append, Utf8.encode_append]
    congr 1
    clear hl
    induction ended with
    | nil => rfl
    | cons l ended ih =>
        rw [List.flatMap_cons, String.ofList_append, Utf8.encode_append, String.ofList_append,
          Utf8.encode_append, ih]
        rfl
  rw [Sink.lines, hbytes, splitOn_terminated, List.dropLast_concat]
  · intro l hmem
    obtain ⟨l', hl', rfl⟩ := List.mem_map.mp hmem
    exact hfree (hl.noLineFeed l' (List.mem_cons_of_mem _ hl'))
  · exact hfree (hl.noLineFeed _ List.mem_cons_self)

theorem Ledger.atLineStart_iff (hl : Ledger s ended begun) : s.AtLineStart ↔ begun = [] := by
  rw [AtLineStart, hl.content]
  constructor
  · intro hstart
    by_contra hne
    rw [List.getLast?_append_of_ne_nil _ hne] at hstart
    have hlast := hstart _ (List.getLast?_eq_getLast_of_ne_nil hne)
    exact hl.noLineFeed _ List.mem_cons_self (hlast ▸ List.getLast_mem hne)
  · rintro rfl c hc
    rw [List.append_nil] at hc
    cases ended using List.reverseRecOn with
    | nil => cases hc
    | append_singleton ended l =>
        rw [List.flatMap_append, List.flatMap_singleton, ← List.append_assoc,
          List.getLast?_concat] at hc
        exact (Option.some.inj hc).symm

end Sink

namespace JsonLines

variable {w : JsonLines} {r : DomainReport} {ended : List (List Char)} {begun : List Char}

def outcome (w : JsonLines) (r : DomainReport) : Except SinkFault Unit :=
  (w.sink.writeAll (lineWrites r)).2

/-- The counts still tell what a reader of the lines gets: a report is written as a line of its own
that can be read back, or counted as an error. -/
inductive Counts (w : JsonLines) (r : DomainReport) : Prop
  | line (hwritten : w.outcome r = .ok ()) (hstart : w.sink.AtLineStart)
      (hdepth : r.toJson.depth ≤ Json.nestingLimit)
  | error (reason : String) (hrefused : w.outcome r = .error (.other reason))

def CountsEach (w : JsonLines) : List DomainReport → Prop
  | [] => True
  | r :: rest => Counts w r ∧ CountsEach (w.handle r).1 rest

theorem sink_handle (w : JsonLines) (r : DomainReport) :
    (w.handle r).1.sink = (w.sink.writeAll (lineWrites r)).1 := by
  simp only [handle]
  split <;> rfl

theorem counters_of_forgiven (h : forgive (w.outcome r) = .ok ()) :
    (w.handle r).1.written = w.written + 1 ∧ (w.handle r).1.errors = w.errors := by
  rw [outcome] at h
  simp only [handle, h]
  exact ⟨trivial, trivial⟩

theorem counters_of_complaint {reason : String} (h : forgive (w.outcome r) = .error reason) :
    (w.handle r).1.written = w.written ∧ (w.handle r).1.errors = w.errors + 1 := by
  rw [outcome] at h
  simp only [handle, h]
  exact ⟨trivial, trivial⟩

theorem flatten_lineWrites (r : DomainReport) : (lineWrites r).flatten = r.lineText ++ ['\n'] := by
  rw [lineWrites, List.flatten_append]
  rfl

theorem take_lineWrites {k : Nat} (h : k < (lineWrites r).length) :
    '\n' ∉ ((lineWrites r).take k).flatten ∧ ∀ c ∈ ((lineWrites r).take k).flatten.head?,
      c = '\x7b' := by
  rw [lineWrites, List.length_append, List.length_singleton, Nat.lt_succ_iff] at h
  rw [lineWrites, List.take_append_of_le_length h]
  constructor
  · intro hmem
    exact r.lineFeed_notMem_lineText ((List.take_sublist k _).flatten.subset hmem)
  · obtain ⟨rest, hrest⟩ := r.exists_writes_eq_cons
    rw [hrest]
    cases k with
    | zero =>
        intro c hc
        cases hc
    | succ k =>
        intro c hc
        exact (Option.some.inj hc).symm

theorem ledger_of_ok (hl : w.sink.Ledger ended begun) (h : w.outcome r = .ok ()) :
    (w.handle r).1.sink.Ledger (ended ++ [begun ++ r.lineText]) [] := by
  obtain ⟨k, hheld, hall, -⟩ := w.sink.exists_take_of_writeAll (lineWrites r)
  rw [hall h, List.take_length] at hheld
  have hcontent := Sink.content_of_held hheld
  rw [flatten_lineWrites, hl.content] at hcontent
  rw [sink_handle]
  refine ⟨?_, ?_, nofun⟩
  · rw [hcontent, List.flatMap_append, List.flatMap_singleton]
    simp only [List.append_assoc, List.append_nil]
  · intro l hmem
    rcases List.mem_cons.mp hmem with rfl | hmem
    · exact List.not_mem_nil
    · rcases List.mem_append.mp hmem with hmem | hmem
      · exact hl.noLineFeed l (List.mem_cons_of_mem _ hmem)
      · rw [List.mem_singleton.mp hmem, List.mem_append, not_or]
        exact ⟨hl.noLineFeed begun List.mem_cons_self, r.lineFeed_notMem_lineText⟩

theorem ledger_of_error {fault : SinkFault} (hl : w.sink.Ledger ended begun)
    (h : w.outcome r = .error fault) :
    ∃ begun', (w.handle r).1.sink.Ledger ended begun' := by
  obtain ⟨k, hheld, -, hsome⟩ := w.sink.exists_take_of_writeAll (lineWrites r)
  have hcontent := Sink.content_of_held hheld
  obtain ⟨hfree, hbrace⟩ := take_lineWrites (hsome fault h)
  rw [sink_handle]
  refine ⟨begun ++ ((lineWrites r).take k).flatten, ?_, ?_, ?_⟩
  · rw [hcontent, hl.content, List.append_assoc]
  · intro l hmem
    rcases List.mem_cons.mp hmem with rfl | hmem
    · rw [List.mem_append, not_or]
      exact ⟨hl.noLineFeed begun List.mem_cons_self, hfree⟩
    · exact hl.noLineFeed l (List.mem_cons_of_mem _ hmem)
  · cases begun with
    | nil => exact hbrace
    | cons c begun => exact hl.brace

def reportsIn (lines : List (List Char)) : List DomainReport :=
  lines.filterMap fun l => DomainReport.ofLine? (Text.Utf8.encode (String.ofList l))

theorem reportsIn_singleton (l : List Char) :
    reportsIn [l] = (DomainReport.ofLine? (Text.Utf8.encode (String.ofList l))).toList := by
  rw [reportsIn, List.filterMap_cons]
  cases DomainReport.ofLine? (Text.Utf8.encode (String.ofList l)) <;> rfl

/-- What a report adds to the lines and to the counts: how many more are counted as written than can
be read back is `lost`. -/
structure Added (w w' : JsonLines) (more : List (List Char)) (rs : List DomainReport)
    (lost : Nat) : Prop where
  reports : (reportsIn more).Sublist rs
  total : w'.written + w'.errors = w.written + w.errors + rs.length
  written : w'.written = w.written + (reportsIn more).length + lost

theorem counts_iff_of_ok (h : w.outcome r = .ok ()) :
    Counts w r ↔ w.sink.AtLineStart ∧ r.toJson.depth ≤ Json.nestingLimit := by
  constructor
  · intro hcounts
    cases hcounts with
    | line _ hstart hdepth => exact ⟨hstart, hdepth⟩
    | error reason hrefused =>
        rw [h] at hrefused
        cases hrefused
  · rintro ⟨hstart, hdepth⟩
    exact .line h hstart hdepth

theorem not_counts_of_readerGone (h : w.outcome r = .error .readerGone) : ¬ Counts w r := by
  intro hcounts
  cases hcounts with
  | line hwritten _ _ =>
      rw [h] at hwritten
      cases hwritten
  | error reason hrefused =>
      rw [h] at hrefused
      cases hrefused

theorem handle_added_of_ok (hl : w.sink.Ledger ended begun) (h : w.outcome r = .ok ()) :
    ∃ lost, Added w (w.handle r).1 [begun ++ r.lineText] [r] lost ∧ (lost = 0 ↔ Counts w r) := by
  obtain ⟨hwritten, herrors⟩ := counters_of_forgiven (w := w) (r := r) (by rw [h]; rfl)
  have htotal :
      (w.handle r).1.written + (w.handle r).1.errors = w.written + w.errors + [r].length := by
    rw [hwritten, herrors, List.length_singleton]
    omega
  have hread := r.ofLine?_begun hl.brace
  rw [counts_iff_of_ok h, hl.atLineStart_iff]
  by_cases hgood : begun = [] ∧ r.toJson.depth ≤ Json.nestingLimit
  · have hreports : reportsIn [begun ++ r.lineText] = [r] := by
      rw [reportsIn_singleton, hread, if_pos hgood]
      rfl
    refine ⟨0, ⟨?_, htotal, ?_⟩, iff_of_true rfl hgood⟩
    · rw [hreports]
    · rw [hreports, hwritten, List.length_singleton]
  · have hreports : reportsIn [begun ++ r.lineText] = [] := by
      rw [reportsIn_singleton, hread, if_neg hgood]
      rfl
    refine ⟨1, ⟨?_, htotal, ?_⟩, iff_of_false Nat.one_ne_zero hgood⟩
    · rw [hreports]
      exact List.nil_sublist _
    · rw [hreports, hwritten, List.length_nil]

theorem handle_added_of_error {fault : SinkFault} (h : w.outcome r = .error fault) :
    ∃ lost, Added w (w.handle r).1 [] [r] lost ∧ (lost = 0 ↔ Counts w r) := by
  cases fault with
  | readerGone =>
      obtain ⟨hwritten, herrors⟩ := counters_of_forgiven (w := w) (r := r) (by rw [h]; rfl)
      refine ⟨1, ⟨List.nil_sublist _, ?_, hwritten⟩,
        iff_of_false Nat.one_ne_zero (not_counts_of_readerGone h)⟩
      rw [hwritten, herrors, List.length_singleton]
      omega
  | other reason =>
      obtain ⟨hwritten, herrors⟩ := counters_of_complaint (w := w) (r := r) (by rw [h]; rfl)
      refine ⟨0, ⟨List.nil_sublist _, ?_, hwritten⟩, iff_of_true rfl (.error reason h)⟩
      rw [hwritten, herrors, List.length_singleton]
      omega

theorem handle_added (hl : w.sink.Ledger ended begun) (r : DomainReport) :
    ∃ more begun' lost, (w.handle r).1.sink.Ledger (ended ++ more) begun' ∧
      Added w (w.handle r).1 more [r] lost ∧ (lost = 0 ↔ Counts w r) := by
  cases houtcome : w.outcome r with
  | ok done =>
      obtain ⟨lost, hadded, hcounts⟩ := handle_added_of_ok hl houtcome
      exact ⟨_, [], lost, ledger_of_ok hl houtcome, hadded, hcounts⟩
  | error fault =>
      obtain ⟨begun', hl'⟩ := ledger_of_error hl houtcome
      obtain ⟨lost, hadded, hcounts⟩ := handle_added_of_error houtcome
      rw [← List.append_nil ended] at hl'
      exact ⟨[], begun', lost, hl', hadded, hcounts⟩

theorem handleAll_added (hl : w.sink.Ledger ended begun) (rs : List DomainReport) :
    ∃ more begun' lost, (w.handleAll rs).1.sink.Ledger (ended ++ more) begun' ∧
      Added w (w.handleAll rs).1 more rs lost ∧ (lost = 0 ↔ CountsEach w rs) := by
  -- The ledger is what one report leaves for the next: each needs to know how the line before it
  -- ended.
  induction rs generalizing w ended begun with
  | nil =>
      refine ⟨[], begun, 0, ?_, ⟨List.Sublist.refl _, rfl, rfl⟩, iff_of_true rfl trivial⟩
      rwa [List.append_nil]
  | cons r rest ih =>
      obtain ⟨first, begun₁, lost₁, hl₁, hadded₁, hlost₁⟩ := handle_added hl r
      obtain ⟨more, begun₂, lost₂, hl₂, hadded₂, hlost₂⟩ := ih hl₁
      have hreports : reportsIn (first ++ more) = reportsIn first ++ reportsIn more :=
        List.filterMap_append
      rw [List.append_assoc] at hl₂
      refine ⟨first ++ more, begun₂, lost₁ + lost₂, hl₂, ⟨?_, ?_, ?_⟩, ?_⟩
      · rw [hreports]
        exact hadded₁.reports.append hadded₂.reports
      · have htotal₁ := hadded₁.total
        have htotal₂ :
            (w.handleAll (r :: rest)).1.written + (w.handleAll (r :: rest)).1.errors = _ :=
          hadded₂.total
        rw [List.length_singleton] at htotal₁
        rw [htotal₂, List.length_cons]
        omega
      · have hwritten₁ := hadded₁.written
        have hwritten₂ : (w.handleAll (r :: rest)).1.written = _ := hadded₂.written
        rw [hreports, List.length_append, hwritten₂]
        omega
      · rw [CountsEach, ← hlost₁, ← hlost₂]
        omega

theorem CountsEach.take {rs : List DomainReport} (h : CountsEach w rs) (n : Nat) :
    CountsEach w (rs.take n) := by
  induction rs generalizing w n with
  | nil =>
      rw [List.take_nil]
      trivial
  | cons r rest ih =>
      cases n with
      | zero => trivial
      | succ n => exact ⟨h.1, ih h.2 n⟩

def after (refusal : List (List Char) → Nat → Option SinkFault) (rs : List DomainReport) :
    JsonLines :=
  (handleAll { sink := { refusal } } rs).1

theorem after_added (refusal : List (List Char) → Nat → Option SinkFault) (rs : List DomainReport) :
    (after refusal rs).written + (after refusal rs).errors = rs.length ∧
      (after refusal rs).sink.reports.Sublist rs ∧
      ((after refusal rs).written = (after refusal rs).sink.reports.length ↔
        CountsEach { sink := { refusal } } rs) := by
  have hempty : Sink.Ledger { refusal } [] [] := ⟨rfl, by simp, nofun⟩
  have hl : (JsonLines.mk { refusal } 0 0).sink.Ledger [] [] := hempty
  obtain ⟨more, begun, lost, hl', hadded, hlost⟩ := handleAll_added hl rs
  rw [List.nil_append] at hl'
  have hreports : (after refusal rs).sink.reports = reportsIn more := by
    rw [Sink.reports, after, hl'.lines_eq, List.filterMap_map]
    rfl
  have htotal : (after refusal rs).written + (after refusal rs).errors = 0 + 0 + rs.length :=
    hadded.total
  have hwritten : (after refusal rs).written = 0 + (reportsIn more).length + lost := hadded.written
  refine ⟨by omega, hreports ▸ hadded.reports, ?_⟩
  rw [hreports, hwritten, ← hlost]
  omega

/-- Each report is counted once, and what can be read from the ended lines are reports that were
handled, in their order. As many as are counted as written can be read back after every report
exactly if none is lost to a gone reader, put behind the beginning of another, or nested too
deep. -/
theorem written_lines_are_read_back_iff (refusal : List (List Char) → Nat → Option SinkFault)
    (rs : List DomainReport) :
    (∀ n, (after refusal (rs.take n)).written +
      (after refusal (rs.take n)).errors = (rs.take n).length ∧
      (after refusal (rs.take n)).sink.reports.Sublist (rs.take n)) ∧
    ((∀ n, (after refusal (rs.take n)).written = (after refusal (rs.take n)).sink.reports.length) ↔
      CountsEach { sink := { refusal } } rs) := by
  refine ⟨fun n => ?_, fun hall => ?_, fun heach n => ?_⟩
  · obtain ⟨htotal, hreports, -⟩ := after_added refusal (rs.take n)
    exact ⟨htotal, hreports⟩
  · have hlast := hall rs.length
    rw [List.take_length] at hlast
    exact (after_added refusal rs).2.2.mp hlast
  · exact (after_added refusal (rs.take n)).2.2.mpr (heach.take n)

theorem unread_lines_count_as_written :
    let r := DomainReport.withoutMailService "b.test" "No MX records found" default
    let gone := after (fun _ _ => some .readerGone) [r]
    let cut := after (fun _ attempts => if attempts = 1 then some (.other "disk full")
      else none) [r, r]
    gone.written = 1 ∧ gone.sink.reports = [] ∧
      cut.written = 1 ∧ cut.errors = 1 ∧ cut.sink.lines.length = 1 ∧ cut.sink.reports = [] := by
  intro r gone cut
  have hgone : gone.written = 1 ∧ gone.sink.reports = [] := by decide +kernel
  have hcounts : cut.written = 1 ∧ cut.errors = 1 := by decide +kernel
  -- The first report got no further than its brace, and the second stands right behind that.
  have hledger : cut.sink.Ledger ['\x7b' :: r.lineText] [] := by
    refine ⟨by decide +kernel, ?_, nofun⟩
    intro l hmem
    simp only [List.mem_cons, List.not_mem_nil, or_false] at hmem
    rcases hmem with rfl | rfl
    · exact List.not_mem_nil
    · exact List.not_mem_cons_of_ne_of_not_mem (by decide) r.lineFeed_notMem_lineText
  have hlost : DomainReport.ofLine? (Utf8.encode (String.ofList ('\x7b' :: r.lineText))) = none :=
    r.ofLine?_interrupted []
  refine ⟨hgone.1, hgone.2, hcounts.1, hcounts.2, ?_, ?_⟩
  · rw [hledger.lines_eq]
    rfl
  · rw [Sink.reports, hledger.lines_eq, List.map_singleton, List.filterMap_cons, hlost]
    rfl

end JsonLines

end Batch

end MailAudit
