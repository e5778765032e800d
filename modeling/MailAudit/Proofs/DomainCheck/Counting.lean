import MailAudit.Program.Initialization
import MailAudit.Proofs.DomainCheck.Step

namespace MailAudit

def Counter.ofChecks : List Counter :=
  [.milestone .domainChecked, .milestone .cacheHit, .failure .mxLookup, .failure .noMxRecords,
    .failure .cacheRead, .failure .cacheWrite]

structure Services.Leaves (s : Services) (c : Counter) : Prop where
  mx (domain : String) : c ∉ Note.counters (s.mx domain).2
  probe (domain hostname : String) (now : Instant) :
    c ∉ Note.counters (s.probe domain hostname now).2
  policy (domain : String) (hosts : Keyed HostReport) : c ∉ Note.counters (s.policy domain hosts).2

namespace World

def domainsChecked (w : World) : Nat := w.tally.milestones .domainChecked

theorem domainsChecked_eq (w : World) :
    w.domainsChecked = w.raised.count (.milestone .domainChecked) := w.tally_count _

theorem domainsChecked_of_raised {w v : World} {cs : Multiset Counter}
    (hcs : .milestone .domainChecked ∉ cs) (h : v.raised = cs + w.raised) :
    v.domainsChecked = w.domainsChecked := by
  rw [domainsChecked_eq, domainsChecked_eq, h, Multiset.count_add,
    Multiset.count_eq_zero_of_notMem hcs, Nat.zero_add]

theorem domainsChecked_note (w : World) {notes : List Note}
    (h : .milestone .domainChecked ∉ Note.counters notes) :
    (w.note notes).domainsChecked = w.domainsChecked :=
  domainsChecked_of_raised h (raised_note w notes)

end World

namespace DomainCheck

variable {s : Services}

theorem Finding.domainChecked_notMem (f : Finding) :
    Counter.milestone .domainChecked ∉ f.counters := by
  cases f <;> simp [Finding.counters]

theorem domainChecked_notMem_keptCounters (hostname : String) (r : HostReport) (w : World) :
    Counter.milestone .domainChecked ∉ keptCounters hostname r w := by
  simp only [keptCounters]
  split
  · simp
  · split <;> simp

theorem Probing.domainsChecked_step {p q : Probing} {w v : World} {m : Probing.Move}
    (hs : s.Leaves (.milestone .domainChecked)) (h : Probing.Step s p w m q v) :
    v.domainsChecked = w.domainsChecked := by
  cases h with
  | enter hp hroom => rfl
  | reuse hi hr =>
      exact World.domainsChecked_of_raised (Finding.domainChecked_notMem _)
        (cached_spec s _ _ w).2.1
  | start hi hr =>
      exact World.domainsChecked_of_raised (Finding.domainChecked_notMem _)
        (cached_spec s _ _ w).2.1
  | land hi => exact World.domainsChecked_of_raised (hs.probe _ _ _) (probed_spec s _ _ w).2.1
  | keep hi =>
      exact World.domainsChecked_of_raised (domainChecked_notMem_keptCounters _ _ w)
        (keep_spec _ _ w).1

theorem domainChecked_notMem_lookupCounters (hs : s.Leaves (.milestone .domainChecked))
    (domain : String) :
    Counter.milestone .domainChecked ∉ lookupCounters s domain +
      ↑(Note.counters (s.mx domain).2) := by
  intro hmem
  rcases Multiset.mem_add.mp hmem with hmem | hmem
  · simp only [lookupCounters] at hmem
    split at hmem <;> simp at hmem
  · exact hs.mx domain hmem

theorem domainChecked_notMem_openingCounters (hs : s.Leaves (.milestone .domainChecked))
    (domain : String) :
    Counter.milestone .domainChecked ∉ openingCounters s domain := by
  rw [openingCounters, Multiset.add_assoc]
  intro hmem
  rcases Multiset.mem_add.mp hmem with hmem | hmem
  · split at hmem <;> simp at hmem
  · exact domainChecked_notMem_lookupCounters hs domain hmem

theorem domainsChecked_conclude (hs : s.Leaves (.milestone .domainChecked))
    (hosts preferred : List String) (p : Probing) (w : World) :
    (conclude s hosts preferred p w).2.domainsChecked = w.domainsChecked :=
  World.domainsChecked_note w (hs.policy _ _)

theorem domainsChecked_finish (result : Result) (w : World) :
    (finish result w).domainsChecked = w.domainsChecked + 1 := by
  rw [World.domainsChecked_eq, World.domainsChecked_eq, finish, World.raised_note]
  simp [Nat.add_comm]

theorem Inquiry.domainsChecked_step {q r : Inquiry} {w v : World} {m : Inquiry.Move}
    (hs : s.Leaves (.milestone .domainChecked)) (h : Inquiry.Step s q w m r v) :
    v.domainsChecked + q.isAnswered.toNat = w.domainsChecked + r.isAnswered.toNat := by
  cases h with
  | settle hopened hraised hcache hticks =>
      have hu := World.domainsChecked_of_raised (domainChecked_notMem_openingCounters hs _) hraised
      rw [domainsChecked_finish, hu]
      rfl
  | @embark domain expected w hsome hchosen =>
      have hraised := (mxHosts_spec s (HostName.normalize domain) w).2.1
      rw [World.domainsChecked_of_raised (domainChecked_notMem_lookupCounters hs _) hraised]
      rfl
  | scan hstep =>
      rw [Probing.domainsChecked_step hs (Probing.step_of_step? hstep)]
      rfl
  | conclude hdone =>
      rw [domainsChecked_finish, domainsChecked_conclude hs]
      rfl

theorem Inquiry.Run.domainsChecked {q₀ q : Inquiry} {w₀ w : World} {ms : List Inquiry.Move}
    (hs : s.Leaves (.milestone .domainChecked)) (h : Inquiry.Run s q₀ w₀ ms q w) :
    w.domainsChecked + q₀.isAnswered.toNat = w₀.domainsChecked + q.isAnswered.toNat := by
  induction h with
  | refl => rfl
  | tail _ hstep _ ih =>
      have hone := Inquiry.domainsChecked_step hs (Inquiry.step_of_step? hstep)
      omega

theorem domainsChecked_run (hs : s.Leaves (.milestone .domainChecked)) (domain : String)
    (expected : List String) (w : World) :
    (run s domain expected w).2.domainsChecked = w.domainsChecked + 1 := by
  obtain ⟨ms, hrun⟩ := Inquiry.exists_run s domain expected w
  simpa [Inquiry.isAnswered] using hrun.domainsChecked hs

theorem domainsChecked_verdict (hs : s.Leaves (.milestone .domainChecked)) (domain : String)
    (w : World) :
    (verdict s domain w).2.domainsChecked = w.domainsChecked + 1 :=
  domainsChecked_run hs domain [] w

end DomainCheck

theorem Dns.Resolver.counters_lookup (r : Dns.Resolver) (question : Dns.Question) (name : String) :
    Note.counters (r.lookup question name).2 = [] := by
  simp only [lookup]
  split
  · rfl
  · simp only [failureNote]
    split <;> rfl

theorem Tls.Certificate.counters_notes (trust : Tls.Trust) (hostname : String) (now : Int)
    (chain : List Tls.Presented) : Note.counters (notes trust hostname now chain) = [] := by
  simp only [notes]
  split <;> rfl

theorem Smtp.Client.counters_conclude (c : Smtp.Client) (hostname : String) (now : Int)
    (checks : List Check) (sent : List String) (session : Tls.Session) :
    Note.counters (c.conclude hostname now checks sent session).notes = [] := by
  simp only [conclude, sessionNote, List.cons_append, Note.counters_log_cons, Note.counters_append,
    Tls.Certificate.counters_notes, List.nil_append]
  split <;> rfl

theorem Smtp.Client.counters_secure (c : Smtp.Client) (answer : Tls.Answer) (hostname : String)
    (now : Int) (sent : List String) :
    Note.counters (c.secure answer hostname now sent).notes = [] := by
  simp only [secure]
  split
  · rfl
  · split
    · exact counters_conclude c hostname now _ sent _
    · rfl
    · rfl

theorem Smtp.Client.counters_probe (c : Smtp.Client) (peer : Except ConnectError Smtp.Server)
    (hostname : String) (now : Int) : Note.counters (c.probe peer hostname now).notes = [] := by
  simp only [probe]
  split
  · rfl
  · split
    · rfl
    · exact counters_secure c _ hostname now _

theorem Smtp.Client.counters_report (c : Smtp.Client) (peer : Except ConnectError Smtp.Server)
    (domain hostname : String) (now : Instant) :
    Note.counters (c.report peer domain hostname now).2.2 =
      .milestone .hostProbed ::
        ((c.probe peer hostname now.seconds).failure?.map Counter.failure).toList := by
  have hverdict (r : HostReport) : Note.counters (verdictNotes r) = [] := by
    simp only [verdictNotes]
    split <;> rfl
  simp only [report, List.cons_append, Note.counters_log_cons, Note.counters_append,
    counters_probe, Note.counters_reached_cons, hverdict, List.append_nil, List.nil_append]
  cases (c.probe peer hostname now.seconds).failure? <;> rfl

theorem Smtp.Outcome.notMem_ofChecks {o : Smtp.Outcome} {f : Failure} (h : o.failure? = some f) :
    Counter.failure f ∉ Counter.ofChecks := by
  simp only [failure?] at h
  split at h
  · rename_i fault hfault
    cases h
    cases fault <;> simp [Fault.failure, Counter.ofChecks]
  · obtain ⟨check, -, hcertificate⟩ := Option.bind_eq_some_iff.mp h
    cases hverdict : check.verdict <;> rw
      [hverdict] at hcertificate <;> cases hcertificate <;> decide

theorem MtaSts.Audit.counters_subset (domain url : String)
    (file : Except MtaSts.FetchError MtaSts.Fetched) (answer : Except Dns.LookupError (List String))
    (hosts : Keyed HostReport) :
    Note.counters (run domain url file answer hosts).2 ⊆
      [.failure .policyUnavailable, .failure .policyInconsistent, .milestone .policyFound] := by
  simp only [run]
  split
  · simp
  · split
    · simp
    · simp only [foundNotes, Note.counters_append]
      split <;> simp

theorem Program.Machine.services_leave (m : Program.Machine) (s : Settings) (roots : Tls.Roots)
    {c : Counter} (hc : c ∈ Counter.ofChecks) : (m.services s roots).Leaves c where
  mx domain := by
    rw [show Note.counters ((m.services s roots).mx domain).2 = [] from
      m.resolver.counters_lookup .mx domain]
    exact List.not_mem_nil
  probe domain hostname now := by
    intro hmem
    rw [show Note.counters ((m.services s roots).probe domain hostname now).2 = _ from
      Smtp.Client.counters_report _ _ domain hostname now] at hmem
    rcases List.mem_cons.mp hmem with rfl | hmem
    · revert hc
      decide
    · obtain ⟨f, hf, rfl⟩ := Option.map_eq_some_iff.mp (Option.mem_toList.mp hmem)
      exact Smtp.Outcome.notMem_ofChecks hf hc
  policy domain hosts := by
    have hlookup := m.resolver.counters_lookup .txt (MtaSts.Audit.recordName domain)
    have hsubset := MtaSts.Audit.counters_subset domain (MtaSts.Policy.url s.policyUrl domain)
      (MtaSts.Fetched.fetch
        (m.network.connect (m.webServer (MtaSts.Policy.url s.policyUrl domain))))
      (m.resolver.lookup .txt (MtaSts.Audit.recordName domain)).1 hosts
    have hrun : c ∉ Note.counters (MtaSts.Audit.run domain (MtaSts.Policy.url s.policyUrl domain)
        (MtaSts.Fetched.fetch
          (m.network.connect (m.webServer (MtaSts.Policy.url s.policyUrl domain))))
        (m.resolver.lookup .txt (MtaSts.Audit.recordName domain)).1 hosts).2 := by
      intro hmem
      have hthree := hsubset hmem
      simp only [List.mem_cons, List.not_mem_nil, or_false] at hthree
      rcases hthree with rfl | rfl | rfl <;> revert hc <;> decide
    simp only [services, policy, Note.counters_append, hlookup, List.nil_append]
    exact hrun

end MailAudit
