import MailAudit.Proofs.Json.Decoding

/-! Text that begins as an object and ends with a whole record that was not meant to be part of it
is no JSON: either the record stands behind a value that is through, or inside one that is never
closed, or the first quote of the record ends a string in front of its first name. -/

namespace MailAudit.Json

def scan : Mode → List Char → Option (List Token × Mode)
  | mode, [] => some ([], mode)
  | mode, c :: cs =>
      (step mode c).bind fun here =>
        (scan here.2 cs).map fun after => (here.1 ++ after.1, after.2)

theorem tokensFrom_append (mode : Mode) (cs more : List Char) :
    tokensFrom mode (cs ++ more) =
      (scan mode cs).bind fun after => (tokensFrom after.2 more).map (after.1 ++ ·) := by
  induction cs generalizing mode with
  | nil => exact Option.map_id'.symm
  | cons c cs ih =>
      rw [List.cons_append, scan]
      cases hstep : step mode c with
      | none => simp [tokensFrom, hstep]
      | some here =>
          rw [tokensFrom_cons hstep, ih here.2, Option.bind_some]
          cases scan here.2 cs with
          | none => rfl
          | some after =>
              simp [Function.comp_def]

def advanceAll : Position → List Token → Option Position
  | position, [] => some position
  | position, token :: tokens =>
      (advance position token).bind fun next => advanceAll next tokens

theorem assemble_append (position : Position) (tokens more : List Token) :
    assemble position (tokens ++ more) =
      (advanceAll position tokens).bind fun next => assemble next more := by
  induction tokens generalizing position with
  | nil => rfl
  | cons token tokens ih =>
      rw [List.cons_append, assemble_cons, advanceAll]
      cases advance position token with
      | none => rfl
      | some next => exact ih next

def Begun (position : Position) : Prop := position.2 ≠ [] ∨ ∃ v, position.1 = .nothing v

variable {p q : Position} {v : Json} {frames : List Frame} {token : Token}

theorem begun_of_place (h : place v frames = some q) : Begun q := by
  cases frames with
  | nil =>
      cases h
      exact Or.inr ⟨v, rfl⟩
  | cons frame frames =>
      cases frame with
      | object members => cases h
      | _ =>
          cases h
          exact Or.inl (List.cons_ne_nil _ _)

theorem begun_of_takeValue (h : takeValue token frames = some q) : Begun q := by
  cases token with
  | literal v => exact begun_of_place h
  | string s => exact begun_of_place h
  | openArray =>
      cases h
      exact Or.inl (List.cons_ne_nil _ _)
  | openObject =>
      cases h
      exact Or.inl (List.cons_ne_nil _ _)
  | _ => cases h

theorem begun_of_takeName (h : takeName token frames = some q) : Begun q := by
  simp only [takeName] at h
  split at h
  · cases h
    exact Or.inl (List.cons_ne_nil _ _)
  · cases h

theorem begun_of_close (h : close token frames = some q) : Begun q := by
  simp only [close] at h
  split at h
  · exact begun_of_place h
  · exact begun_of_place h
  · cases h

theorem Begun.advance (hp : Begun p) (h : advance p token = some q) : Begun q := by
  obtain ⟨awaited, frames⟩ := p
  cases awaited with
  | value => exact begun_of_takeValue h
  | elementOrClose =>
      simp only [Json.advance] at h
      split at h
      · exact begun_of_close h
      · exact begun_of_takeValue h
  | memberOrClose =>
      simp only [Json.advance] at h
      split at h
      · exact begun_of_close h
      · exact begun_of_takeName h
  | name => exact begun_of_takeName h
  | colon =>
      cases token with
      | colon =>
          cases h
          rcases hp with hopen | ⟨v, hv⟩
          · exact Or.inl hopen
          · cases hv
      | _ => cases h
  | commaOrClose =>
      simp only [Json.advance] at h
      split at h
      · cases h
        exact Or.inl (List.cons_ne_nil _ _)
      · cases h
        exact Or.inl (List.cons_ne_nil _ _)
      · exact begun_of_close h
  | nothing v => cases h

theorem Begun.advanceAll {tokens : List Token} (hp : Begun p) (h : advanceAll p tokens = some q) :
    Begun q := by
  induction tokens generalizing p with
  | nil =>
      cases h
      exact hp
  | cons token tokens ih =>
      obtain ⟨next, hnext, hrest⟩ := Option.bind_eq_some_iff.mp h
      exact ih (hp.advance hnext) hrest

def Refuses (position : Position) : Prop := position.1 ≠ .value ∧ position.1 ≠ .elementOrClose

theorem assemble_openObject (hp : Refuses p) (rest : List Token) :
    assemble p (.openObject :: rest) = none := by
  obtain ⟨awaited, frames⟩ := p
  rw [assemble_cons]
  cases awaited with
  | value => exact absurd rfl hp.1
  | elementOrClose => exact absurd rfl hp.2
  | memberOrClose => rfl
  | name => rfl
  | colon => rfl
  | commaOrClose =>
      cases frames with
      | nil => rfl
      | cons frame frames => cases frame <;> rfl
  | nothing v => rfl

theorem refuses_of_place (h : place v frames = some q) : Refuses q := by
  cases frames with
  | nil =>
      cases h
      exact ⟨nofun, nofun⟩
  | cons frame frames =>
      cases frame with
      | object members => cases h
      | _ =>
          cases h
          exact ⟨nofun, nofun⟩

theorem refuses_of_literal (h : advance p (.literal v) = some q) : Refuses q := by
  obtain ⟨awaited, frames⟩ := p
  cases awaited with
  | value => exact refuses_of_place h
  | elementOrClose => exact refuses_of_place h
  | commaOrClose =>
      cases frames with
      | nil => cases h
      | cons frame frames => cases frame <;> cases h
  | _ => cases h

theorem assemble_literal_openObject (v : Json) (rest : List Token) :
    assemble p (.literal v :: .openObject :: rest) = none := by
  obtain ⟨awaited, frames⟩ := p
  rw [assemble_cons]
  cases hnext : advance (awaited, frames) (.literal v) with
  | none => rfl
  | some next => exact assemble_openObject (refuses_of_literal hnext) rest

theorem literal_of_wordToken? {word : List Char} (h : wordToken? word = some token) :
    ∃ v, token = .literal v := by
  simp only [wordToken?] at h
  split at h
  · exact ⟨_, (Option.some.inj h).symm⟩
  · split at h
    · exact ⟨_, (Option.some.inj h).symm⟩
    · split at h
      · exact ⟨_, (Option.some.inj h).symm⟩
      · cases h

theorem literal_of_numberToken? {read : List Char} (h : numberToken? read = some token) :
    ∃ v, token = .literal v := by
  obtain ⟨n, -, rfl⟩ := Option.map_eq_some_iff.mp h
  exact ⟨_, rfl⟩

theorem assemble_tokensOf_object (hp : Begun p) (members : List (Option String × Json))
    (hplain : Plain (.object members)) : assemble p (tokensOf (.object members)) = none := by
  obtain ⟨awaited, frames⟩ := p
  by_cases hawaited : awaited = .value ∨ awaited = .elementOrClose
  · have hvalue := hplain.assembles awaited frames [] hawaited
    rw [List.append_nil] at hvalue
    rw [hvalue]
    cases frames with
    | nil =>
        rcases hp with hopen | ⟨v, hv⟩
        · exact absurd rfl hopen
        · subst hv
          rcases hawaited with hawaited | hawaited <;> cases hawaited
    | cons frame frames => cases frame <;> rfl
  · rw [not_or] at hawaited
    exact assemble_openObject (p := (awaited, frames)) hawaited _

theorem stepBetween_of_isWordChar {c : Char} (h : isWordChar c = true) :
    stepBetween c = some ([], .inWord [c]) := by
  simp only [isWordChar, Bool.and_eq_true, decide_eq_true_eq] at h
  have hlow : 97 ≤ c.toNat := h.1
  have hhigh : c.toNat ≤ 122 := h.2
  rw [← Char.ofNat_toNat c]
  generalize c.toNat = n at hlow hhigh
  interval_cases n <;> rfl

structure Bare (word : List Char) : Prop where
  ne_nil : word ≠ []
  chars : ∀ c ∈ word, isWordChar c = true
  noToken : wordToken? word = none

theorem tokensFrom_inString_bare {word : List Char} (hword : Bare word)
    (read : List Text.Utf16.Unit) (rest : List Char) :
    tokensFrom (.inString read) ('\x7b' :: '"' :: (word ++ '"' :: rest)) = none := by
  obtain ⟨c, cs, rfl⟩ := List.exists_cons_of_ne_nil hword.ne_nil
  have hfirst : stepBetween c = some ([], .inWord [c]) :=
    stepBetween_of_isWordChar (hword.chars c List.mem_cons_self)
  have hrest :=
    tokensFrom_inWord (fun d hd => hword.chars d (List.mem_cons_of_mem c hd)) [c] ('"' :: rest)
  have hend : tokensFrom (.inWord (cs.reverse ++ [c])) ('"' :: rest) = none := by
    have hstep : step (.inWord (cs.reverse ++ [c])) '"' = none := by
      simp [step, stepAfter, isWordChar, hword.noToken]
    simp [tokensFrom, hstep]
  rw [tokensFrom_silent (n := .inString (.char '\x7b' :: read)) rfl,
    tokensFrom_cons (n := .between) rfl, List.cons_append, tokensFrom_silent (m := .between) hfirst,
    hrest, hend]
  rfl

section Record

variable {members : List (Option String × Json)} {word rest : List Char}

theorem tokensFrom_after_token {mode : Mode} {token? : Option Token} (text : List Char)
    (hstep : step mode '\x7b' = stepAfter token? '\x7b')
    (hliteral : ∀ token, token? = some token → ∃ v, token = .literal v) :
    (tokensFrom mode ('\x7b' :: text)).bind (assemble p) = none := by
  cases htoken : token? with
  | none =>
      have hnone : step mode '\x7b' = none := by rw [hstep, htoken]; rfl
      simp [tokensFrom, hnone]
  | some token =>
      obtain ⟨v, rfl⟩ := hliteral token htoken
      have hsome : step mode '\x7b' = some ([.literal v, .openObject], .between) := by
        rw [hstep, htoken]
        rfl
      rw [tokensFrom_cons hsome]
      cases tokensFrom .between text with
      | none => rfl
      | some tokens => exact assemble_literal_openObject v tokens

theorem bind_assemble_object (hp : Begun p) (hplain : Plain (.object members)) (hword : Bare word)
    (htext : (writes (.object members)).flatten = '\x7b' :: '"' :: (word ++ '"' :: rest))
    (mode : Mode) :
    (tokensFrom mode (writes (.object members)).flatten).bind (assemble p) = none := by
  cases mode with
  | between =>
      have htokens := hplain.scans Delimited.ending
      rw [List.append_nil] at htokens
      rw [htokens]
      simpa [tokensFrom, finish] using assemble_tokensOf_object hp members hplain
  | inWord read =>
      rw [htext]
      exact tokensFrom_after_token _ rfl fun _ => literal_of_wordToken?
  | inNumber read =>
      rw [htext]
      exact tokensFrom_after_token _ rfl fun _ => literal_of_numberToken?
  | inString read =>
      rw [htext, tokensFrom_inString_bare hword]
      rfl
  | escaped read =>
      have hnone : step (.escaped read) '\x7b' = none := rfl
      rw [htext]
      simp [tokensFrom, hnone]
  | inCode read digits value =>
      have hnone : step (.inCode read digits value) '\x7b' = none := rfl
      rw [htext]
      simp [tokensFrom, hnone]

end Record

theorem escaped_of_isWordChar {c : Char} (h : isWordChar c = true) : escaped c = [c] := by
  simp only [isWordChar, Bool.and_eq_true, decide_eq_true_eq] at h
  have hlow : 97 ≤ c.toNat := h.1
  have hhigh : c.toNat ≤ 122 := h.2
  rw [← Char.ofNat_toNat c]
  generalize c.toNat = n at hlow hhigh
  interval_cases n <;> rfl

theorem flatten_writes_record {name : String} (hname : Bare name.toList) (value : Json)
    (fields : List (String × Json)) :
    ∃ rest, (writes (record ((name, value) :: fields))).flatten =
      '\x7b' :: '"' :: (name.toList ++ '"' :: rest) := by
  have hescaped : name.toList.flatMap escaped = name.toList := by
    rw [List.flatMap_def, List.map_congr_left fun c hc => escaped_of_isWordChar (hname.chars c hc),
      ← List.flatMap_def, List.flatMap_singleton']
  refine ⟨':' :: ((writes value).flatten ++
    ((memberWrites false (fields.map fun f => member f.1 f.2)).flatten ++ ['\x7d'])), ?_⟩
  simp only [record, List.map_cons, member, writes, memberWrites, quotedWrites, if_true,
    List.nil_append, List.flatten_cons, List.flatten_append, flatten_stringWrites, List.reverse_nil,
    hescaped,
    List.append_assoc, List.cons_append, List.flatten_nil]

-- What stands before the record need not be the beginning of anything but an object.
theorem parse?_interrupted {name : String} {value : Json} {fields : List (String × Json)}
    (hplain : Plain (record ((name, value) :: fields))) (hname : Bare name.toList)
    (before : List Char) :
    parse?
      (String.ofList ('\x7b' :: before ++ (writes (record ((name, value) :: fields))).flatten)) =
      none := by
  obtain ⟨rest, htext⟩ := flatten_writes_record hname value fields
  rw [parse?, tokens?, String.toList_ofList, List.cons_append, tokensFrom_mark (c := '\x7b') rfl,
    tokensFrom_append]
  cases scan .between before with
  | none => rfl
  | some after =>
      obtain ⟨tokens, mode⟩ := after
      have hstart : Begun (.memberOrClose, [.object []]) := Or.inl (List.cons_ne_nil _ _)
      have hbehind {next : Position} (hnext : Begun next) :
          (tokensFrom mode (writes (record ((name, value) :: fields))).flatten).bind
            (assemble next) =
            none := bind_assemble_object hnext hplain hname htext mode
      cases htokens : tokensFrom mode (writes (record ((name, value) :: fields))).flatten with
      | none => simp [htokens]
      | some more =>
          have hopen : assemble (.value, []) (.openObject :: (tokens ++ more)) =
              assemble (.memberOrClose, [.object []]) (tokens ++ more) := rfl
          simp only [Option.bind_eq_bind, Option.bind_some, htokens, Option.map_some, hopen,
            assemble_append]
          cases hnext : advanceAll (.memberOrClose, [.object []]) tokens with
          | none => rfl
          | some next =>
              have hnone := hbehind (hstart.advanceAll hnext)
              rwa [htokens] at hnone

end MailAudit.Json
