import MailAudit.Proofs.Smtp.Grammar

namespace MailAudit.Smtp.Reply

theorem linesFrom_gathered (code? : Option Nat) (read : List String) (remaining : Nat)
    (s : Stream) :
    linesFrom code? read remaining s.gathered = gatherRest (linesFrom code? read remaining s) := by
  induction remaining generalizing code? read s with
  | zero => rfl
  | succ remaining ih =>
      have hgathered := rawLine_gathered s
      cases hraw : rawLine s with
      | error e =>
          rw [hraw] at hgathered
          rw [linesFrom_of_rawLine_error hraw, linesFrom_of_rawLine_error hgathered]
          rfl
      | ok found =>
          obtain ⟨raw, t⟩ := found
          rw [hraw] at hgathered
          cases hparse : parseLine (lineText raw) with
          | error e =>
              rw [linesFrom_of_parseLine_error hraw hparse,
                linesFrom_of_parseLine_error hgathered hparse]
              rfl
          | ok parsed =>
              obtain ⟨code, last, text⟩ := parsed
              cases hfilter : code?.filter (· != code) with
              | some first =>
                  rw [linesFrom_of_codeChanged hraw hparse hfilter,
                    linesFrom_of_codeChanged hgathered hparse hfilter]
                  rfl
              | none =>
                  rw [linesFrom_of_sameCode hraw hparse hfilter,
                    linesFrom_of_sameCode hgathered hparse hfilter]
                  cases last with
                  | true => rfl
                  | false => exact ih (some code) (read ++ [String.ofList text]) t

theorem read_gathered (s : Stream) : read s.gathered = gatherRest (read s) :=
  linesFrom_gathered none [] maxLines s

theorem read_independent_of_pieces {s t : Stream} (hbytes : s.remaining = t.remaining)
    (hending : s.ending = t.ending) :
    (∃ e, read s = .error e ∧ read t = .error e) ∨
      ∃ reply consumed s' t', read s = .ok (reply, s') ∧ read t = .ok (reply, t') ∧
        s.remaining = consumed ++ s'.remaining ∧ t.remaining = consumed ++ t'.remaining := by
  have hgathered : s.gathered = t.gathered :=
    Stream.gathered_eq_mk_iff.mpr ⟨hbytes, hending⟩
  have hread : gatherRest (read s) = gatherRest (read t) := by
    rw [← read_gathered, ← read_gathered, hgathered]
  cases hs : read s with
  | error e =>
      rw [hs] at hread
      exact Or.inl ⟨e, rfl, gatherRest_eq_error_iff.mp hread.symm⟩
  | ok found =>
      obtain ⟨reply, s'⟩ := found
      rw [hs] at hread
      obtain ⟨t', ht, hrest⟩ := gatherRest_eq_ok_iff.mp hread.symm
      obtain ⟨raws, -, hconsumed, -⟩ := isReply_of_read hs
      have hleft : t'.remaining = s'.remaining := (Stream.gathered_eq_mk_iff.mp hrest).1
      exact Or.inr ⟨reply, raws.flatten, s', t', rfl, ht, hconsumed,
        by rw [hleft, ← hbytes, hconsumed]⟩

-- Cut between the digits of the code, between the two bytes of a character and between CR and LF.
theorem reply_in_small_pieces_is_the_same :
    (⟨[50], [[50, 48, 32, 0xC3], [0xA9, 13], [10, 88]], .failed "reset"⟩ : Stream).remaining =
        (⟨[], [[50, 50, 48, 32, 0xC3, 0xA9, 13, 10], [88]], .failed "reset"⟩ : Stream).remaining ∧
    ((∃ e, read ⟨[50], [[50, 48, 32, 0xC3], [0xA9, 13], [10, 88]], .failed "reset"⟩ = .error e ∧
        read ⟨[], [[50, 50, 48, 32, 0xC3, 0xA9, 13, 10], [88]], .failed "reset"⟩ = .error e) ∨
      ∃ reply consumed s' t',
        read ⟨[50], [[50, 48, 32, 0xC3], [0xA9, 13], [10, 88]], .failed "reset"⟩ = .ok (reply, s') ∧
        read ⟨[], [[50, 50, 48, 32, 0xC3, 0xA9, 13, 10], [88]], .failed "reset"⟩ =
          .ok (reply, t') ∧
        [50, 50, 48, 32, 0xC3, 0xA9, 13, 10, 88] = consumed ++ s'.remaining ∧
        [50, 50, 48, 32, 0xC3, 0xA9, 13, 10, 88] = consumed ++ t'.remaining) :=
  ⟨rfl, read_independent_of_pieces (s := ⟨[50], [[50, 48, 32, 0xC3], [0xA9, 13], [10, 88]],
      .failed "reset"⟩) (t := ⟨[], [[50, 50, 48, 32, 0xC3, 0xA9, 13, 10], [88]], .failed "reset"⟩)
    rfl rfl⟩

end MailAudit.Smtp.Reply
