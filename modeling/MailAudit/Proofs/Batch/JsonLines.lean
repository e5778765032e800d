import MailAudit.Batch.JsonLines
import MailAudit.Proofs.Report.RoundTrip
import MailAudit.Proofs.Text.Utf8

namespace MailAudit

namespace DomainReport

def ofLine? (line : List UInt8) : Option DomainReport :=
  (Text.Utf8.decode? line).bind read?

def line (r : DomainReport) : List UInt8 := Text.Utf8.encode r.print

variable {r : DomainReport}

theorem ofLine?_line (h : r.toJson.depth ≤ Json.nestingLimit) : ofLine? r.line = some r := by
  have hread : read? r.print = Json.within Json.nestingLimit r.toJson r :=
    Stored.domain.read?_print r
  rw [ofLine?, line, Text.Utf8.decode?_encode, Option.bind_some, hread, Json.within, if_pos h]

theorem lineFeed_notMem_line (r : DomainReport) : 10 ∉ r.line := by
  rw [line, Text.Utf8.lineFeed_mem_encode_iff]
  exact r.plain_toJson.lineFeed_notMem_print

end DomainReport

namespace Batch

namespace Sink

variable {s : Sink}

def Accepts (s : Sink) : Prop := ∀ held attempts, s.refusal held attempts = none

def bytes (s : Sink) : List UInt8 := Text.Utf8.encode (String.ofList s.content)

theorem writeAll_of_accepts (hs : s.Accepts) (texts : List (List Char)) :
    s.writeAll texts =
      ({ s with held := texts.reverse ++ s.held, attempts := s.attempts + texts.length },
        .ok ()) := by
  induction texts generalizing s with
  | nil => rfl
  | cons text rest ih =>
      have hwrite : s.write text =
          ({ s with held := text :: s.held, attempts := s.attempts + 1 }, .ok ()) := by
        simp only [write, hs s.held s.attempts]
      have hrest := @ih { s with held := text :: s.held, attempts := s.attempts + 1 } hs
      simp only [writeAll, hwrite, hrest, List.reverse_cons, List.append_assoc,
        List.singleton_append, List.length_cons, Nat.add_assoc, Nat.add_comm 1]

theorem content_of_held {s' : Sink} {texts : List (List Char)}
    (h : s'.held = texts.reverse ++ s.held) :
    s'.content = s.content ++ texts.flatten := by
  rw [content, content, h, List.reverse_append, List.reverse_reverse, List.flatten_append]

theorem bytes_of_held {s' : Sink} {texts : List (List Char)}
    (h : s'.held = texts.reverse ++ s.held) :
    s'.bytes = s.bytes ++ Text.Utf8.encode (String.ofList texts.flatten) := by
  rw [bytes, bytes, content_of_held h, String.ofList_append, Text.Utf8.encode_append]

theorem splitOn_terminated {lines : List (List UInt8)} {last : List UInt8}
    (hlines : ∀ l ∈ lines, 10 ∉ l) (hlast : 10 ∉ last) :
    (lines.flatMap (· ++ [10]) ++ last).splitOn 10 = lines ++ [last] := by
  induction lines with
  | nil => exact List.splitOn_eq_singleton hlast
  | cons l lines ih =>
      have hrest := ih fun l' hl' => hlines l' (List.mem_cons_of_mem l hl')
      rw [List.flatMap_cons, List.append_assoc, List.append_assoc, List.singleton_append,
        List.splitOn_append_cons_self_of_not_mem (hlines l List.mem_cons_self), hrest,
        List.cons_append]

end Sink

namespace JsonLines

variable {w : JsonLines}

theorem encode_lineWrites (r : DomainReport) :
    Text.Utf8.encode (String.ofList (lineWrites r).flatten) = r.line ++ [10] := by
  rw [lineWrites, List.flatten_append, String.ofList_append, Text.Utf8.encode_append]
  rfl

theorem handle_of_accepts (hw : w.sink.Accepts) (r : DomainReport) :
    (w.handle r).1.sink.Accepts ∧ (w.handle r).1.sink.bytes = w.sink.bytes ++ (r.line ++ [10]) ∧
      (w.handle r).1.written = w.written + 1 ∧ (w.handle r).1.errors = w.errors := by
  rw [handle, Sink.writeAll_of_accepts hw]
  refine ⟨hw, ?_, rfl, rfl⟩
  rw [← encode_lineWrites]
  exact Sink.bytes_of_held rfl

theorem handleAll_of_accepts (hw : w.sink.Accepts) (rs : List DomainReport) :
    (w.handleAll rs).1.sink.bytes = w.sink.bytes ++ rs.flatMap (fun r => r.line ++ [10]) ∧
      (w.handleAll rs).1.written = w.written + rs.length ∧
      (w.handleAll rs).1.errors = w.errors := by
  induction rs generalizing w with
  | nil => exact ⟨(List.append_nil _).symm, rfl, rfl⟩
  | cons r rest ih =>
      obtain ⟨haccepts, hbytes, hwritten, herrors⟩ := handle_of_accepts hw r
      obtain ⟨hbytes', hwritten', herrors'⟩ := ih haccepts
      refine ⟨?_, ?_, herrors'.trans herrors⟩
      · rw [List.flatMap_cons, ← List.append_assoc, ← hbytes]
        exact hbytes'
      · rw [List.length_cons, Nat.add_comm rest.length, ← Nat.add_assoc, ← hwritten]
        exact hwritten'

theorem splitOn_lines (rs : List DomainReport) :
    (rs.flatMap fun r => r.line ++ [10]).splitOn 10 = rs.map DomainReport.line ++ [[]] := by
  have hlines : ∀ l ∈ rs.map DomainReport.line, 10 ∉ l := by
    intro l hmem
    obtain ⟨r, -, rfl⟩ := List.mem_map.mp hmem
    exact r.lineFeed_notMem_line
  have hsplit := Sink.splitOn_terminated hlines List.not_mem_nil
  rwa [List.append_nil, List.flatMap_map] at hsplit

theorem lines_are_read_back (sink : Sink) (haccepts : sink.Accepts) (hempty : sink.held = [])
    (rs : List DomainReport) (hdepth : ∀ r ∈ rs, r.toJson.depth ≤ Json.nestingLimit) :
    ∃ lines, (handleAll { sink } rs).1.sink.bytes.splitOn 10 = lines ++ [[]] ∧
      lines.map DomainReport.ofLine? = rs.map some ∧
      (handleAll { sink } rs).1.written = rs.length ∧ (handleAll { sink } rs).1.errors = 0 := by
  have hw : (JsonLines.mk sink 0 0).sink.Accepts := haccepts
  obtain ⟨hbytes, hwritten, herrors⟩ := handleAll_of_accepts hw rs
  have hnone : sink.bytes = [] := by
    rw [Sink.bytes, Sink.content, hempty]
    rfl
  refine ⟨rs.map DomainReport.line, ?_, ?_, hwritten.trans (Nat.zero_add _), herrors⟩
  · rw [hbytes, hnone, List.nil_append, splitOn_lines]
  · rw [List.map_map]
    refine List.map_congr_left fun r hr => ?_
    rw [Function.comp_apply, DomainReport.ofLine?_line (hdepth r hr)]

theorem two_reports_are_read_back :
    ∃ (first second : DomainReport) (lines : List (List UInt8)),
      first.message = some "two\nlines, a \"quote\" and \u0007" ∧
      first.toJson.depth ≤ Json.nestingLimit ∧
      second.toJson.depth ≤ Json.nestingLimit ∧
      (handleAll { sink := .unbounded } [first, second]).1.sink.bytes.splitOn 10 = lines ++ [[]] ∧
      lines.map DomainReport.ofLine? = [some first, some second] ∧
      (handleAll { sink := .unbounded } [first, second]).1.written = 2 ∧
      (handleAll { sink := .unbounded } [first, second]).1.errors = 0 := by
  let first : DomainReport :=
    .withoutMailService "a.example" "two\nlines, a \"quote\" and \u0007" default
  let second : DomainReport :=
    .ofChecks "b.example" ["mx.b.example"] ["mx.b.example"]
      (.ofList [("mx.b.example", .observed "b.example" "mx.b.example" [.pass "starttls"] default)])
      none default
  have hfirst : first.toJson.depth ≤ Json.nestingLimit := by decide +kernel
  have hsecond : second.toJson.depth ≤ Json.nestingLimit := by decide +kernel
  obtain ⟨lines, hlines, hread, hwritten, herrors⟩ :=
    lines_are_read_back .unbounded (fun _ _ => rfl) rfl [first, second] (by simp [hfirst, hsecond])
  exact ⟨first, second, lines, rfl, hfirst, hsecond, hlines, hread, hwritten, herrors⟩

end JsonLines

end Batch

end MailAudit
