import MailAudit.Proofs.Json.Scanning

namespace MailAudit.Json

/-- Every string is a text and every number a natural number. -/
inductive Plain : Json → Prop
  | null : Plain .null
  | bool (b : Bool) : Plain (.bool b)
  | nat (n : Nat) : Plain (.nat n)
  | text (s : String) : Plain (.text s)
  | array {elements : List Json} (h : ∀ v ∈ elements, Plain v) : Plain (.array elements)
  | object {members : List (Option String × Json)}
      (hnames : ∀ m ∈ members, m.1.isSome = true) (h : ∀ m ∈ members, Plain m.2) :
      Plain (.object members)

mutual

def tokensOf : Json → List Token
  | .string s => [.string s]
  | .array elements => .openArray :: (elementTokens true elements ++ [.closeArray])
  | .object members => .openObject :: (memberTokens true members ++ [.closeObject])
  | v => [.literal v]

def elementTokens (first : Bool) : List Json → List Token
  | [] => []
  | v :: rest => (if first then [] else [.comma]) ++ tokensOf v ++ elementTokens false rest

def memberTokens (first : Bool) : List (Option String × Json) → List Token
  | [] => []
  | (name, v) :: rest =>
      (if first then [] else [.comma]) ++ .string name :: .colon :: tokensOf v ++
        memberTokens false rest

end

theorem tokensFrom_mark {c : Char} {token : Token} (h : stepBetween c = some ([token], .between))
    (rest : List Char) :
    tokensFrom .between (c :: rest) = (tokensFrom .between rest).map (token :: ·) :=
  tokensFrom_cons (m := .between) h rest

theorem delimited_elementWrites (elements : List Json) (rest : List Char) :
    Delimited ((elementWrites false elements).flatten ++ ']' :: rest) := by
  cases elements with
  | nil => exact .closeArray rest
  | cons v elements => exact .comma _

theorem delimited_memberWrites (members : List (Option String × Json)) (rest : List Char) :
    Delimited ((memberWrites false members).flatten ++ '\x7d' :: rest) := by
  cases members with
  | nil => exact .closeObject rest
  | cons m members => exact .comma _

/-- The writes of a value give its tokens, whatever may follow a value. -/
def Scans (v : Json) : Prop :=
  ∀ {rest : List Char}, Delimited rest →
    tokensFrom .between ((writes v).flatten ++ rest) =
      (tokensFrom .between rest).map (tokensOf v ++ ·)

theorem tokensFrom_elementWrites {elements : List Json} (h : ∀ v ∈ elements, Scans v) (first : Bool)
    (rest : List Char) :
    tokensFrom .between ((elementWrites first elements).flatten ++ ']' :: rest) =
      (tokensFrom .between (']' :: rest)).map (elementTokens first elements ++ ·) := by
  induction elements generalizing first with
  | nil => exact Option.map_id'.symm
  | cons v elements ih =>
      have hv : Scans v := h v List.mem_cons_self
      have hrest := ih (fun u hu => h u (List.mem_cons_of_mem v hu)) false
      have hvalue : tokensFrom .between
          ((writes v).flatten ++ ((elementWrites false elements).flatten ++ ']' :: rest)) =
          (tokensFrom .between (']' :: rest)).map
            (tokensOf v ++ elementTokens false elements ++ ·) := by
        rw [hv (delimited_elementWrites elements rest), hrest, Option.map_map]
        simp [Function.comp_def]
      cases first with
      | true => simpa [elementWrites, elementTokens] using hvalue
      | false =>
          have hcomma := tokensFrom_mark (c := ',') rfl
            ((writes v).flatten ++ ((elementWrites false elements).flatten ++ ']' :: rest))
          rw [hvalue, Option.map_map] at hcomma
          simpa [elementWrites, elementTokens, Function.comp_def] using hcomma

theorem tokensFrom_memberWrites {members : List (Option String × Json)}
    (hnames : ∀ m ∈ members, m.1.isSome = true) (h : ∀ m ∈ members, Scans m.2) (first : Bool)
    (rest : List Char) :
    tokensFrom .between ((memberWrites first members).flatten ++ '\x7d' :: rest) =
      (tokensFrom .between ('\x7d' :: rest)).map (memberTokens first members ++ ·) := by
  induction members generalizing first with
  | nil => exact Option.map_id'.symm
  | cons m members ih =>
      obtain ⟨name, v⟩ := m
      obtain ⟨text, rfl⟩ := Option.isSome_iff_exists.mp (hnames _ List.mem_cons_self)
      have hv : Scans v := h _ List.mem_cons_self
      have hrest := ih (fun u hu => hnames u (List.mem_cons_of_mem _ hu))
        (fun u hu => h u (List.mem_cons_of_mem _ hu)) false
      have hmember : tokensFrom .between ((quotedWrites (some text)).flatten ++
          ':' :: ((writes v).flatten ++ ((memberWrites false members).flatten ++ '\x7d' :: rest))) =
          (tokensFrom .between ('\x7d' :: rest)).map
            (.string (some text) :: .colon :: (tokensOf v ++ memberTokens false members) ++ ·) := by
        rw [tokensFrom_quoted, tokensFrom_mark (c := ':') rfl,
          hv (delimited_memberWrites members rest), hrest, Option.map_map, Option.map_map,
          Option.map_map]
        simp [Function.comp_def]
      cases first with
      | true => simpa [memberWrites, memberTokens] using hmember
      | false =>
          have hcomma := tokensFrom_mark (c := ',') rfl ((quotedWrites (some text)).flatten ++
            ':' :: ((writes v).flatten ++ ((memberWrites false members).flatten ++ '\x7d' :: rest)))
          rw [hmember, Option.map_map] at hcomma
          simpa [memberWrites, memberTokens, Function.comp_def] using hcomma

theorem Plain.scans {v : Json} (hv : Plain v) : Scans v := by
  induction hv with
  | null =>
      intro rest hrest
      simpa [writes, tokensOf] using tokensFrom_word "null" rfl rfl (by decide) rfl hrest
  | bool b =>
      intro rest hrest
      cases b with
      | true => simpa [writes, tokensOf] using tokensFrom_word "true" rfl rfl (by decide) rfl hrest
      | false =>
        simpa [writes, tokensOf] using tokensFrom_word "false" rfl rfl (by decide) rfl hrest
  | nat n =>
      intro rest hrest
      simpa [Json.nat, writes, tokensOf, numeralText, Numeral.ofNat] using tokensFrom_digits n hrest
  | text s => exact fun _ => tokensFrom_quoted s _
  | @array elements h ih =>
      intro rest hrest
      have hopen := tokensFrom_mark (c := '[') rfl
        ((elementWrites true elements).flatten ++ ']' :: rest)
      rw [tokensFrom_elementWrites @ih, tokensFrom_mark (c := ']') rfl, Option.map_map,
        Option.map_map] at hopen
      simpa [writes, tokensOf, Function.comp_def] using hopen
  | @object members hnames h ih =>
      intro rest hrest
      have hopen := tokensFrom_mark (c := '\x7b') rfl
        ((memberWrites true members).flatten ++ '\x7d' :: rest)
      rw [tokensFrom_memberWrites hnames @ih, tokensFrom_mark (c := '\x7d') rfl, Option.map_map,
        Option.map_map] at hopen
      simpa [writes, tokensOf, Function.comp_def] using hopen

theorem Plain.tokens?_print {v : Json} (hv : Plain v) : tokens? v.print = some (tokensOf v) := by
  have hscan := hv.scans .ending
  simpa [tokens?, print, tokensFrom, finish] using hscan

def Assembles (v : Json) : Prop :=
  ∀ (awaited : Awaited) (frames : List Frame) (rest : List Token),
    awaited = .value ∨ awaited = .elementOrClose →
    assemble (awaited, frames) (tokensOf v ++ rest) =
      (place v frames).bind fun position => assemble position rest

theorem assemble_cons (awaited : Awaited) (frames : List Frame) (token : Token)
    (rest : List Token) :
    assemble (awaited, frames) (token :: rest) =
      (advance (awaited, frames) token).bind fun position => assemble position rest := by
  cases awaited <;> rfl

theorem assembles_token {v : Json} {token : Token} (h : tokensOf v = [token])
    (htake : ∀ frames, takeValue token frames = place v frames) (hclose : token ≠ .closeArray) :
    Assembles v := by
  intro awaited frames rest hawaited
  rw [h, List.singleton_append, assemble_cons, ← htake]
  rcases hawaited with rfl | rfl
  · rfl
  · cases token with
    | closeArray => exact absurd rfl hclose
    | _ => rfl

theorem assemble_elements {elements : List Json} (h : ∀ v ∈ elements, Assembles v)
    (before : List Json) (frames : List Frame) (rest : List Token) :
    assemble (.commaOrClose, .array before :: frames)
        (elementTokens false elements ++ .closeArray :: rest) =
      (place (.array (before.reverse ++ elements)) frames).bind fun position =>
        assemble position rest := by
  induction elements generalizing before with
  | nil =>
      rw [List.append_nil]
      exact assemble_cons _ _ _ _
  | cons v elements ih =>
      have hv : Assembles v := h v List.mem_cons_self
      have hrest := ih (fun u hu => h u (List.mem_cons_of_mem v hu)) (v :: before)
      rw [List.reverse_cons, List.append_assoc, List.singleton_append] at hrest
      rw [← hrest]
      simp only [elementTokens, Bool.false_eq_true, if_false, List.append_assoc,
        List.singleton_append]
      exact hv .value (.array before :: frames) _ (Or.inl rfl)

theorem assemble_members {members : List (Option String × Json)} (h : ∀ m ∈ members, Assembles m.2)
    (before : List (Option String × Json)) (frames : List Frame) (rest : List Token) :
    assemble (.commaOrClose, .object before :: frames)
        (memberTokens false members ++ .closeObject :: rest) =
      (place (.object (before.reverse ++ members)) frames).bind fun position =>
        assemble position rest := by
  induction members generalizing before with
  | nil =>
      rw [List.append_nil]
      exact assemble_cons _ _ _ _
  | cons m members ih =>
      obtain ⟨name, v⟩ := m
      have hv : Assembles v := h _ List.mem_cons_self
      have hrest := ih (fun u hu => h u (List.mem_cons_of_mem _ hu)) ((name, v) :: before)
      rw [List.reverse_cons, List.append_assoc, List.singleton_append] at hrest
      rw [← hrest]
      simp only [memberTokens, Bool.false_eq_true, if_false, List.append_assoc, List.cons_append,
        List.nil_append, assemble_cons]
      exact hv .value (.member before name :: frames) _ (Or.inl rfl)

theorem assembles_array {elements : List Json} (h : ∀ v ∈ elements, Assembles v) :
    Assembles (.array elements) := by
  intro awaited frames rest hawaited
  have hopen : assemble (awaited, frames) (tokensOf (.array elements) ++ rest) =
      assemble (.elementOrClose, .array [] :: frames)
        (elementTokens true elements ++ .closeArray :: rest) := by
    simp only [tokensOf, List.cons_append, List.append_assoc, List.nil_append, assemble_cons]
    rcases hawaited with rfl | rfl <;> rfl
  rw [hopen]
  cases elements with
  | nil => exact assemble_cons _ _ _ _
  | cons v elements =>
      have hrest := assemble_elements (fun u hu => h u (List.mem_cons_of_mem v hu)) [v] frames rest
      simp only [elementTokens, if_true, List.nil_append, List.append_assoc]
      rw [h v List.mem_cons_self .elementOrClose (.array [] :: frames) _ (Or.inr rfl)]
      exact hrest

theorem assembles_object {members : List (Option String × Json)}
    (h : ∀ m ∈ members, Assembles m.2) : Assembles (.object members) := by
  intro awaited frames rest hawaited
  have hopen : assemble (awaited, frames) (tokensOf (.object members) ++ rest) =
      assemble (.memberOrClose, .object [] :: frames)
        (memberTokens true members ++ .closeObject :: rest) := by
    simp only [tokensOf, List.cons_append, List.append_assoc, List.nil_append, assemble_cons]
    rcases hawaited with rfl | rfl <;> rfl
  rw [hopen]
  cases members with
  | nil => exact assemble_cons _ _ _ _
  | cons m members =>
      obtain ⟨name, v⟩ := m
      have hv : Assembles v := h _ List.mem_cons_self
      have hrest :=
        assemble_members (fun u hu => h u (List.mem_cons_of_mem _ hu)) [(name, v)] frames rest
      simp only [memberTokens, if_true, List.nil_append, List.append_assoc, List.cons_append,
        assemble_cons]
      refine Eq.trans ?_ hrest
      exact hv .value (.member [] name :: frames) _ (Or.inl rfl)

theorem Plain.assembles {v : Json} (hv : Plain v) : Assembles v := by
  induction hv with
  | null => exact assembles_token rfl (fun _ => rfl) nofun
  | bool b => exact assembles_token rfl (fun _ => rfl) nofun
  | nat n => exact assembles_token rfl (fun _ => rfl) nofun
  | text s => exact assembles_token rfl (fun _ => rfl) nofun
  | array _ ih => exact assembles_array ih
  | object _ _ ih => exact assembles_object ih

theorem Plain.parse?_print {v : Json} (hv : Plain v) : parse? v.print = some v := by
  have hvalue := hv.assembles .value [] [] (Or.inl rfl)
  rw [List.append_nil] at hvalue
  simp only [parse?, hv.tokens?_print, Option.bind_eq_bind, Option.bind_some, hvalue]
  rfl

theorem lineFeed_notMem_escaped (c : Char) : '\n' ∉ escaped c := by
  intro hmem
  cases escape_cases c with
  | itself he hquote hback hlow =>
      rw [escaped, he, Option.getD_none, List.mem_singleton] at hmem
      exact hlow (hmem ▸ by decide)
  | short d he hd hc =>
      simp only [escaped, he, Option.getD_some, List.mem_cons, List.not_mem_nil, or_false] at hmem
      rcases hmem with hmem | rfl
      · exact absurd hmem (by decide)
      · cases hc
  | code he hlow =>
      obtain ⟨a, b, hbyte, ha, hb⟩ := exists_hexByte hlow
      simp only [escaped, he, hbyte, Option.getD_some, List.mem_cons,
        List.not_mem_nil, or_false] at hmem
      rcases hmem with hmem | hmem | hmem | hmem | rfl | rfl
      · exact absurd hmem (by decide)
      · exact absurd hmem (by decide)
      · exact absurd hmem (by decide)
      · exact absurd hmem (by decide)
      · cases ha
      · cases hb

theorem lineFeed_notMem_quotedWrites (s : String) : '\n' ∉ (quotedWrites (some s)).flatten := by
  intro hmem
  simp only [quotedWrites, List.flatten_cons, List.flatten_append, flatten_stringWrites,
    List.reverse_nil, List.nil_append, List.flatten_nil, List.append_nil, List.mem_append,
    List.mem_singleton,
    List.mem_flatMap] at hmem
  rcases hmem with hmem | ⟨c, -, hmem⟩ | hmem
  · exact absurd hmem (by decide)
  · exact lineFeed_notMem_escaped c hmem
  · exact absurd hmem (by decide)

theorem lineFeed_notMem_elementWrites {elements : List Json}
    (h : ∀ v ∈ elements, '\n' ∉ (writes v).flatten) (first : Bool) :
    '\n' ∉ (elementWrites first elements).flatten := by
  induction elements generalizing first with
  | nil => exact List.not_mem_nil
  | cons v elements ih =>
      intro hmem
      simp only [elementWrites, List.flatten_append, List.mem_append] at hmem
      rcases hmem with (hmem | hmem) | hmem
      · cases first <;> exact absurd hmem (by decide)
      · exact h v List.mem_cons_self hmem
      · exact ih (fun u hu => h u (List.mem_cons_of_mem v hu)) false hmem

theorem lineFeed_notMem_memberWrites {members : List (Option String × Json)}
    (hnames : ∀ m ∈ members, m.1.isSome = true) (h : ∀ m ∈ members, '\n' ∉ (writes m.2).flatten)
    (first : Bool) : '\n' ∉ (memberWrites first members).flatten := by
  induction members generalizing first with
  | nil => exact List.not_mem_nil
  | cons m members ih =>
      obtain ⟨name, v⟩ := m
      obtain ⟨text, rfl⟩ := Option.isSome_iff_exists.mp (hnames _ List.mem_cons_self)
      intro hmem
      simp only [memberWrites, List.flatten_append, List.flatten_cons, List.mem_append,
        List.mem_singleton] at hmem
      rcases hmem with ((hmem | hmem) | hmem | hmem) | hmem
      · cases first <;> exact absurd hmem (by decide)
      · exact lineFeed_notMem_quotedWrites text hmem
      · exact absurd hmem (by decide)
      · exact h _ List.mem_cons_self hmem
      · exact ih (fun u hu => hnames u (List.mem_cons_of_mem _ hu))
          (fun u hu => h u (List.mem_cons_of_mem _ hu)) false hmem

theorem Plain.lineFeed_notMem_writes {v : Json} (hv : Plain v) : '\n' ∉ (writes v).flatten := by
  induction hv with
  | null => simp [writes]
  | bool b => cases b <;> simp [writes]
  | nat n =>
      intro hmem
      simp only [writes, Json.nat, numeralText, Numeral.ofNat] at hmem
      have hdigit : '\n' ∈ Text.Decimal.digits n := by simpa using hmem
      exact absurd (Text.Decimal.isDigit_of_mem_digits hdigit) (by decide)
  | text s => exact lineFeed_notMem_quotedWrites s
  | array h ih =>
      intro hmem
      simp only [writes, List.flatten_cons, List.flatten_append, List.flatten_nil, List.append_nil,
        List.mem_append, List.mem_singleton] at hmem
      rcases hmem with hmem | hmem | hmem
      · exact absurd hmem (by decide)
      · exact lineFeed_notMem_elementWrites ih true hmem
      · exact absurd hmem (by decide)
  | object hnames h ih =>
      intro hmem
      simp only [writes, List.flatten_cons, List.flatten_append, List.flatten_nil, List.append_nil,
        List.mem_append, List.mem_singleton] at hmem
      rcases hmem with hmem | hmem | hmem
      · exact absurd hmem (by decide)
      · exact lineFeed_notMem_memberWrites hnames ih true hmem
      · exact absurd hmem (by decide)

theorem Plain.lineFeed_notMem_print {v : Json} (hv : Plain v) : '\n' ∉ v.print.toList := by
  rw [print, String.toList_ofList]
  exact hv.lineFeed_notMem_writes

end MailAudit.Json
