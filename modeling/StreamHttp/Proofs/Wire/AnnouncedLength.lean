import StreamHttp.Proofs.Wire.HeadText

/-!
The announced length of a body. All Content-Length values together are one list of elements. A body
of some length is read off a list in which every element is either that length, written in digits
behind at most a plus sign, or negative, as long as not all are negative. The grammar of a length has
digits alone, so the elements with a sign are where the reading is wider.
-/

namespace StreamHttp

namespace Numeral

theorem digits_decimal {limit value number : Nat} {overflow : Problem} {chars : List Char}
    (read : digits limit overflow value chars = .ok number) :
    ∀ char ∈ chars, (digitValue? char).isSome = true := by
  induction chars generalizing value with
  | nil => exact fun _ member => absurd member List.not_mem_nil
  | cons char rest induction =>
      rw [digits] at read
      split at read
      next => cases read
      next digit known =>
        split at read
        · exact List.forall_mem_cons.2 ⟨by rw [known]; rfl, induction read⟩
        · cases read

/-- A number is read from decimal digits within the limit, behind a plus sign or none. -/
theorem natural_ok_iff {limit number : Nat} {chars : List Char} :
    natural limit chars = .ok number ↔
      ∃ digits, (chars = digits ∨ chars = '+' :: digits) ∧ isDecimal digits = true ∧
        decimalValue digits = number ∧ number ≤ limit := by
  constructor
  · intro read
    have decimal {digits : List Char} (filled : digits ≠ [])
        (read : Numeral.digits limit .tooLarge 0 digits = .ok number) :
        isDecimal digits = true ∧ decimalValue digits = number ∧ number ≤ limit := by
      have all := digits_decimal read
      have digital : isDecimal digits = true := by
        rw [isDecimal, Bool.and_eq_true, Bool.not_eq_true', List.isEmpty_eq_false_iff,
          List.all_eq_true]
        exact ⟨filled, all⟩
      rw [digits_value (fun char member => decimal_char digital member) 0 (Nat.zero_le _)] at read
      split at read
      next fits =>
        cases read
        exact ⟨digital, rfl, fits⟩
      next => cases read
    unfold natural at read
    split at read
    next => cases read
    next => cases read
    next rest unended =>
      exact ⟨rest, .inr rfl, decimal (fun empty => unended (by rw [empty])) read⟩
    next filled _ _ => exact ⟨chars, .inl rfl, decimal filled read⟩
  · rintro ⟨digits, rfl | rfl, decimal, rfl, fits⟩
    · rw [natural_decimal decimal, if_pos fits]
    · obtain ⟨first, rest, rfl⟩ : ∃ first rest, digits = first :: rest := by
        cases digits with
        | nil => cases decimal
        | cons first rest => exact ⟨first, rest, rfl⟩
      have signed : natural limit ('+' :: first :: rest) =
          Numeral.digits limit .tooLarge 0 (first :: rest) := rfl
      rw [signed, digits_value (fun char member => decimal_char decimal member) 0 (Nat.zero_le _),
        if_pos]
      · rfl
      · exact fits

end Numeral

/-- Digits alone, and a length of 64 bits: the grammar of an announced length. -/
def Announces (length : Nat) (element : String) : Prop :=
  isDecimal element.toList = true ∧ decimalValue element.toList = length ∧ length ≤ u64Max

/-- A plus sign in front of a length. -/
def AnnouncesSigned (length : Nat) (element : String) : Prop :=
  ∃ digits, element.toList = '+' :: digits ∧ Announces length (String.ofList digits)

def Disclaims (element : String) : Prop :=
  ∃ digits, element.toList = '-' :: digits ∧ isDecimal digits = true

namespace Head

def announced (head : Head) : List String :=
  ((head.headers.getAll "Content-Length").flatMap (Text.piecesOf ',')).map Text.trim

theorem is_negative_iff {element : String} : isNegative element = true ↔ Disclaims element := by
  unfold isNegative Disclaims
  split
  next digits signed =>
    constructor
    · exact fun decimal => ⟨digits, signed, decimal⟩
    · rintro ⟨others, same, decimal⟩
      rw [signed] at same
      cases same
      exact decimal
  next unsigned =>
    constructor
    · exact fun impossible => nomatch impossible
    · exact fun ⟨digits, signed, _⟩ => absurd signed (unsigned digits)

theorem read_element_iff {element : String} {length : Nat} :
    Numeral.natural u64Max element.toList = .ok length ↔
      Announces length element ∨ AnnouncesSigned length element := by
  rw [Numeral.natural_ok_iff]
  constructor
  · rintro ⟨digits, plain | signed, decimal, value, fits⟩
    · rw [← plain] at decimal value
      exact .inl ⟨decimal, value, fits⟩
    · refine .inr ⟨digits, signed, ?_⟩
      rw [Announces, String.toList_ofList]
      exact ⟨decimal, value, fits⟩
  · rintro (⟨decimal, value, fits⟩ | ⟨digits, signed, announces⟩)
    · exact ⟨element.toList, .inl rfl, decimal, value, fits⟩
    · rw [Announces, String.toList_ofList] at announces
      exact ⟨digits, .inr signed, announces⟩

theorem read_element_unsigned {element : String} {length : Nat}
    (read : Announces length element ∨ AnnouncesSigned length element) : ¬Disclaims element := by
  rintro ⟨digits, signed, _⟩
  rcases read with ⟨decimal, _⟩ | ⟨others, plus, _⟩
  · have minus : '-' ∈ element.toList := by rw [signed]; exact List.mem_cons_self
    exact absurd (decimal_char decimal minus).1 (by decide)
  · exact absurd (List.cons.inj (plus.symm.trans signed)).1 (by decide)

/-- One element is passed over when it is negative; else it is the length, if there was none that
differs. -/
theorem agree_ok_iff {before after : Option Nat} {element : String} :
    agree before element = .ok after ↔
      (Disclaims element ∧ after = before) ∨
        ∃ length, (Announces length element ∨ AnnouncesSigned length element) ∧
          after = some length ∧ (before = none ∨ before = some length) := by
  unfold agree
  split
  next negative =>
    have disclaims := is_negative_iff.1 negative
    constructor
    · intro same
      exact .inl ⟨disclaims, (Except.ok.inj same).symm⟩
    · rintro (⟨_, rfl⟩ | ⟨length, read, _⟩)
      · rfl
      · exact absurd disclaims (read_element_unsigned read)
  next positive =>
    have claims : ¬Disclaims element := fun disclaims => positive (is_negative_iff.2 disclaims)
    simp only [claims, false_and, false_or]
    cases number : Numeral.natural u64Max element.toList with
    | error problem =>
        constructor
        · exact fun impossible => nomatch impossible
        · rintro ⟨length, read, _⟩
          cases number.symm.trans (read_element_iff.2 read)
    | ok value =>
        have only {length : Nat}
            (read : Announces length element ∨ AnnouncesSigned length element) : length = value :=
          Except.ok.inj ((read_element_iff.2 read).symm.trans number)
        have read := read_element_iff.1 number
        cases before with
        | none =>
            constructor
            · intro same
              exact ⟨value, read, (Except.ok.inj same).symm, .inl rfl⟩
            · rintro ⟨length, other, rfl, _⟩
              rw [only other]
        | some other =>
            by_cases equal : other = value
            · subst equal
              simp only [beq_self_eq_true, if_true, Except.ok.injEq]
              constructor
              · exact fun same => ⟨other, read, same.symm, .inr rfl⟩
              · rintro ⟨length, again, rfl, _⟩
                rw [only again]
            · have unequal : (other == value) = false := by simpa using equal
              simp only [unequal, Bool.false_eq_true, if_false, reduceCtorEq, false_iff]
              rintro ⟨length, again, rfl, impossible | same⟩
              · cases impossible
              · exact equal ((Option.some.inj same).trans (only again))

/-- The elements that are not negative agree on the length, also with one that was read before. -/
theorem fold_agree_iff {before after : Option Nat} {elements : List String} :
    elements.foldlM agree before = .ok after ↔
      (∀ element ∈ elements, Disclaims element ∨
        ∃ length, (Announces length element ∨ AnnouncesSigned length element) ∧
          after = some length) ∧
      (before = after ∨ before = none ∧ ∃ element ∈ elements, ¬Disclaims element) := by
  induction elements generalizing before with
  | nil =>
      constructor
      · intro same
        exact ⟨List.forall_mem_nil _, .inl (Except.ok.inj same)⟩
      · rintro ⟨_, rfl | ⟨_, element, member, _⟩⟩
        · rfl
        · exact absurd member List.not_mem_nil
  | cons element rest induction =>
      have opened : (element :: rest).foldlM agree before = .ok after ↔
          ∃ between, agree before element = .ok between ∧
            rest.foldlM agree between = .ok after := by
        rw [List.foldlM_cons]
        cases first : agree before element with
        | error error =>
            constructor
            · exact fun impossible => nomatch impossible
            · rintro ⟨_, impossible, _⟩
              cases impossible
        | ok between =>
            constructor
            · exact fun later => ⟨between, rfl, later⟩
            · rintro ⟨_, same, later⟩
              cases same
              exact later
      have claimed : (∃ other ∈ element :: rest, ¬Disclaims other) ↔
          ¬Disclaims element ∨ ∃ other ∈ rest, ¬Disclaims other := by
        simp only [List.mem_cons, or_and_right, exists_or, exists_eq_left]
      rw [opened, List.forall_mem_cons, claimed]
      simp only [agree_ok_iff, induction]
      constructor
      · rintro ⟨between, ⟨disclaims, rfl⟩ | ⟨length, read, rfl, open_⟩, others, kept⟩
        · exact ⟨⟨.inl disclaims, others⟩,
            kept.imp_right fun ⟨unread, later⟩ => ⟨unread, .inr later⟩⟩
        · have same : after = some length := by
            rcases kept with same | ⟨impossible, _⟩
            · exact same.symm
            · cases impossible
          refine ⟨⟨.inr ⟨length, read, same⟩, others⟩, ?_⟩
          rcases open_ with rfl | rfl
          · exact .inr ⟨rfl, .inl (read_element_unsigned read)⟩
          · exact .inl same.symm
      · rintro ⟨⟨disclaims | ⟨length, read, rfl⟩, others⟩, kept⟩
        · refine ⟨before, .inl ⟨disclaims, rfl⟩, others, ?_⟩
          rcases kept with same | ⟨unread, claims | later⟩
          · exact .inl same
          · exact absurd disclaims claims
          · exact .inr ⟨unread, later⟩
        · refine ⟨some length, .inr ⟨length, read, rfl, ?_⟩, others, .inl rfl⟩
          rcases kept with rfl | ⟨rfl, _⟩
          · exact .inr rfl
          · exact .inl rfl

theorem body_length_announced (head : Head) :
    head.bodyLength = head.announced.foldlM agree none := by
  rw [bodyLength, announced, List.foldlM_map]

/-- A list that is read as one length although some element of it has a sign. -/
def ReadsSigned (elements : List String) : Prop :=
  ∃ length, (∃ element ∈ elements, ¬Disclaims element) ∧
    (∀ element ∈ elements,
      Disclaims element ∨ Announces length element ∨ AnnouncesSigned length element) ∧
    ∃ element ∈ elements, ¬Announces length element

theorem body_length_none_iff {head : Head} :
    head.bodyLength = .ok none ↔ ∀ element ∈ head.announced, Disclaims element := by
  rw [body_length_announced, fold_agree_iff]
  constructor
  · rintro ⟨all, _⟩ element member
    rcases all element member with disclaims | ⟨_, _, impossible⟩
    · exact disclaims
    · cases impossible
  · exact fun all => ⟨fun element member => .inl (all element member), .inl rfl⟩

theorem body_length_some_iff {head : Head} {length : Nat} :
    head.bodyLength = .ok (some length) ↔
      (∃ element ∈ head.announced, ¬Disclaims element) ∧
      ∀ element ∈ head.announced,
        Disclaims element ∨ Announces length element ∨ AnnouncesSigned length element := by
  have only (element : String) :
      (∃ other, (Announces other element ∨ AnnouncesSigned other element) ∧
        some length = some other) ↔ Announces length element ∨ AnnouncesSigned length element := by
    constructor
    · rintro ⟨other, read, same⟩
      cases same
      exact read
    · exact fun read => ⟨length, read, rfl⟩
  rw [body_length_announced, fold_agree_iff, and_comm]
  simp only [reduceCtorEq, false_or, true_and, only]

/-- There is no body where every element is negative, as where there is none. There is a body of some
length where every other element is that length, behind a plus sign or none. Everything else is
refused. So a length is read exactly by the grammar of a length, from digits alone, unless the list
is one with signs in it that is read all the same. -/
theorem body_length_grammar (head : Head) :
    (head.bodyLength = .ok none ↔ ∀ element ∈ head.announced, Disclaims element) ∧
    (∀ length, head.bodyLength = .ok (some length) ↔
      (∃ element ∈ head.announced, ¬Disclaims element) ∧
      ∀ element ∈ head.announced,
        Disclaims element ∨ Announces length element ∨ AnnouncesSigned length element) ∧
    ((∀ length, head.bodyLength = .ok (some length) ↔
        head.announced ≠ [] ∧ ∀ element ∈ head.announced, Announces length element) ↔
      ¬ReadsSigned head.announced) := by
  refine ⟨body_length_none_iff, fun length => body_length_some_iff, ?_⟩
  simp only [body_length_some_iff]
  constructor
  · rintro exact_ ⟨length, claims, all, element, member, signed⟩
    exact signed (((exact_ length).1 ⟨claims, all⟩).2 element member)
  · intro unsigned length
    constructor
    · rintro ⟨claims, all⟩
      have filled : head.announced ≠ [] := by
        obtain ⟨element, member, _⟩ := claims
        exact List.ne_nil_of_mem member
      refine ⟨filled, fun other listed => ?_⟩
      by_contra signed
      exact unsigned ⟨length, claims, all, other, listed, signed⟩
    · rintro ⟨filled, all⟩
      obtain ⟨element, rest, whole⟩ := List.exists_cons_of_ne_nil filled
      have member : element ∈ head.announced := by rw [whole]; exact List.mem_cons_self
      exact ⟨⟨element, member, read_element_unsigned (.inl (all element member))⟩,
        fun other listed => .inr (.inl (all other listed))⟩

def announcing (value : String) : Head :=
  Head.make "POST" { path := "/" } (Headers.empty.add "Content-Length" value)

/-- A plus sign is accepted, and so is a negative length beside one that is not. -/
theorem signed_length_read :
    (announcing "+5").announced = ["+5"] ∧ (announcing "+5").bodyLength = .ok (some 5) ∧
      ¬Announces 5 "+5" ∧
      (announcing "-1, 5").announced = ["-1", "5"] ∧
      (announcing "-1, 5").bodyLength = .ok (some 5) ∧ Disclaims "-1" ∧ ¬Announces 5 "-1" := by
  have plus : isDecimal "+5".toList = false := by decide
  have minus : isDecimal "-1".toList = false := by decide
  refine ⟨by decide, by decide, ?_, by decide, by decide, ?_, ?_⟩
  · intro announces
    cases plus.symm.trans announces.1
  · exact ⟨['1'], by decide, by decide⟩
  · intro announces
    cases minus.symm.trans announces.1

end Head

end StreamHttp
