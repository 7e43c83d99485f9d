import JobDashboard.Proofs.Binary64.IntegerPart
import JobDashboard.Proofs.Json.Numbers
import JobDashboard.Proofs.Json.Strings
import JobDashboard.Proofs.Outcome

/-!
# Written documents are read back

The bytes of a written value are cut into tokens piece by piece, each piece on its own but for the
numbers, which have to be followed by something that ends them. The tokens are put together again to
the value that was written. So what is written, whatever it is, is read as a document of just that
value.
-/
namespace JobDashboard.Json

open Utf8 (encodeChars)

/-! ## Tokens -/

/-- Bytes that are cut into these tokens whatever comes after them, unless a number could go on
there. -/
def Lexes (bs : Bytes) (ts : List Token) : Prop :=
  ∀ fuel rest, EndsNumber rest → bs.length + rest.length ≤ fuel → ∃ fuel', rest.length ≤ fuel' ∧
    tokensWithin fuel (bs ++ rest) = ts ++ tokensWithin fuel' rest

variable {bs bs' : Bytes} {ts ts' : List Token} {b : UInt8} {t : Token}

theorem lexes_nil : Lexes [] [] := fun fuel _ _ hfuel => ⟨fuel, by simpa using hfuel, rfl⟩

theorem Lexes.append (h : Lexes bs ts) (h' : Lexes bs' ts')
    (hends : ∀ rest, EndsNumber rest → EndsNumber (bs' ++ rest)) : Lexes (bs ++ bs') (ts ++ ts') := by
  intro fuel rest hrest hfuel
  rw [List.length_append, Nat.add_assoc, ← List.length_append] at hfuel
  obtain ⟨fuel', hfuel', hbs⟩ := h fuel (bs' ++ rest) (hends rest hrest) hfuel
  rw [List.length_append] at hfuel'
  obtain ⟨fuel'', hfuel'', hbs'⟩ := h' fuel' rest hrest hfuel'
  exact ⟨fuel'', hfuel'', by rw [List.append_assoc, hbs, hbs', List.append_assoc]⟩

theorem tokensWithin_cons {fuel : Nat} {rest rest' : Bytes} (hblank : isBlank b = false)
    (h : scanToken? b rest = some (t, rest')) :
    tokensWithin (fuel + 1) (b :: rest) = t :: tokensWithin fuel rest' := by
  rw [tokensWithin, hblank, if_neg Bool.false_ne_true, h]

/-- A piece that is one token. -/
theorem lexes_token (bs : Bytes) (hblank : isBlank b = false)
    (h : ∀ rest, EndsNumber rest → scanToken? b (bs ++ rest) = some (t, rest)) :
    Lexes (b :: bs) [t] := by
  intro fuel rest hrest hfuel
  rw [List.length_cons] at hfuel
  obtain ⟨fuel, rfl⟩ : ∃ k, fuel = k + 1 := ⟨fuel - 1, by omega⟩
  exact ⟨fuel, by omega, tokensWithin_cons hblank (h rest hrest)⟩

/-- A token that ends by itself, in front of others. -/
theorem Lexes.cons (bs : Bytes) (h : Lexes bs' ts') (hblank : isBlank b = false)
    (hscan : ∀ rest, scanToken? b (bs ++ rest) = some (t, rest)) :
    Lexes (b :: (bs ++ bs')) (t :: ts') := by
  intro fuel rest hrest hfuel
  rw [List.length_cons, List.length_append] at hfuel
  obtain ⟨fuel, rfl⟩ : ∃ k, fuel = k + 1 := ⟨fuel - 1, by omega⟩
  obtain ⟨fuel', hfuel', hbs'⟩ := h fuel rest hrest (by omega)
  refine ⟨fuel', hfuel', ?_⟩
  rw [List.cons_append, List.append_assoc, tokensWithin_cons hblank (hscan _), hbs',
    List.cons_append]

/-- A mark of one byte in front of others. -/
theorem Lexes.mark (h : Lexes bs ts) (hblank : isBlank b = false)
    (hscan : ∀ rest, scanToken? b rest = some (t, rest)) : Lexes (b :: bs) (t :: ts) :=
  h.cons [] hblank hscan

theorem Lexes.quoted (h : Lexes bs ts) (s : String) :
    Lexes (encodeChars (Wire.quoted s) ++ bs) (.string (content s) :: ts) := by
  rw [encodeChars_quoted, List.cons_append]
  refine h.cons _ rfl fun rest => ?_
  rw [List.append_assoc, List.singleton_append, scanToken?_quoted]

/-- A byte in front that is none of a number ends it. -/
theorem endsNumber_cons (rest : Bytes)
    (h : isDigit b = false ∧ b ≠ 0x2E ∧ b ≠ 0x65 ∧ b ≠ 0x45) : EndsNumber (b :: rest) := by
  rintro _ ⟨⟩
  exact h

theorem isBlank_of_isDigit (h : isDigit b = true) : isBlank b = false := by
  rw [isDigit, Bool.and_eq_true, decide_eq_true_iff, decide_eq_true_iff] at h
  obtain ⟨hlow, hhigh⟩ := h
  have hne : ∀ k : UInt8, k < 0x30 → b ≠ k := fun k hk hb => by
    rw [hb] at hlow
    exact absurd (UInt8.lt_of_lt_of_le hk hlow) (UInt8.lt_irrefl k)
  simp [isBlank, hne]

/-- A digit begins a number. -/
theorem scanToken?_digit (h : isDigit b = true) (rest : Bytes) :
    scanToken? b rest = (scanMagnitude false (b :: rest)).map fun (n, rest) => (.number n, rest) := by
  rw [isDigit, Bool.and_eq_true, decide_eq_true_iff, decide_eq_true_iff, UInt8.le_iff_toNat_le,
    UInt8.le_iff_toNat_le] at h
  obtain ⟨hlow, hhigh⟩ := h
  simp only [UInt8.reduceToNat] at hlow hhigh
  unfold scanToken?
  split <;> first | omega | rfl

theorem lexes_number {m : Numeral} (h : m.IsValid) (negative : Bool) :
    Lexes (encodeChars ((if negative then ['-'] else []) ++ m.chars))
      [.number (m.literal negative)] := by
  cases negative with
  | true =>
    refine lexes_token (encodeChars m.chars) rfl fun rest hrest => ?_
    show (scanMagnitude true (encodeChars m.chars ++ rest)).map _ = _
    rw [scanMagnitude_numeral h true hrest]
    rfl
  | false =>
    have hdigits := isDigit_of_mem_encodeChars h.whole
    obtain ⟨b, bs, hbs⟩ : ∃ b bs, encodeChars m.whole = b :: bs := by
      cases hwhole : m.whole with
      | nil => exact absurd hwhole h.ne_nil
      | cons c cs => exact ⟨_, _, encodeChars_digits (hwhole ▸ h.whole)⟩
    have hb : isDigit b = true := hdigits b (hbs ▸ List.mem_cons_self)
    have hsplit : encodeChars m.chars = b :: (bs ++ encodeChars
        (Numeral.fractionChars m.fraction ++ Numeral.exponentChars m.exponent)) := by
      rw [Numeral.chars, encodeChars, List.flatMap_append, ← encodeChars, hbs]
      rfl
    show Lexes (encodeChars m.chars) _
    rw [hsplit]
    refine lexes_token _ (isBlank_of_isDigit hb) fun rest hrest => ?_
    rw [scanToken?_digit hb, ← List.cons_append, ← hsplit, scanMagnitude_numeral h false hrest]
    rfl

/-! ## Values -/

namespace Wire

mutual

/-- The value that is written. -/
def value : Wire → Value
  | .null => .null
  | .bool b => .bool b
  | .int n => .number ((Numeral.ofNat n.natAbs).literal (n < 0))
  | .float x =>
    if x.isFinite then .number ((Numeral.ofDecimal (Decimal.shortest x)).literal x.isNegative)
    else .null
  | .text s => .string (content s)
  | .list ws => .array (itemValues ws) true
  | .record ms => .object (memberValues ms) true

def itemValues : List Wire → List Value
  | [] => []
  | w :: ws => w.value :: itemValues ws

def memberValues : List (String × Wire) → List (Bytes × Value)
  | [] => []
  | (k, w) :: ms => (content k, w.value) :: memberValues ms

end

mutual

/-- The tokens that are written. -/
def tokens : Wire → List Token
  | .null => [.null]
  | .bool b => [.bool b]
  | .int n => [.number ((Numeral.ofNat n.natAbs).literal (n < 0))]
  | .float x =>
    if x.isFinite then [.number ((Numeral.ofDecimal (Decimal.shortest x)).literal x.isNegative)]
    else [.null]
  | .text s => [.string (content s)]
  | .list [] => [.openArray, .closeArray]
  | .list (w :: ws) => .openArray :: (w.tokens ++ (itemTokens ws ++ [.closeArray]))
  | .record [] => [.openObject, .closeObject]
  | .record ((k, w) :: ms) => .openObject :: .string (content k) :: .colon ::
      (w.tokens ++ (memberTokens ms ++ [.closeObject]))

def itemTokens : List Wire → List Token
  | [] => []
  | w :: ws => .comma :: (w.tokens ++ itemTokens ws)

def memberTokens : List (String × Wire) → List Token
  | [] => []
  | (k, w) :: ms => .comma :: .string (content k) :: .colon :: (w.tokens ++ memberTokens ms)

end

theorem lexes_null : Lexes (encodeChars "null".toList) [.null] :=
  lexes_token [0x75, 0x6C, 0x6C] rfl fun _ _ => rfl

theorem lexes_bool (b : Bool) :
    Lexes (encodeChars (if b then "true".toList else "false".toList)) [.bool b] := by
  cases b with
  | true => exact lexes_token [0x72, 0x75, 0x65] rfl fun _ _ => rfl
  | false => exact lexes_token [0x61, 0x6C, 0x73, 0x65] rfl fun _ _ => rfl

theorem lexes_int (n : Int) : Lexes (encodeChars (intChars n)) (tokens (.int n)) := by
  have hchars : (Numeral.ofNat n.natAbs).chars = Nat.toDigits 10 n.natAbs := List.append_nil _
  have hnumber := lexes_number (Numeral.isValid_ofNat n.natAbs) (decide (n < 0))
  rw [hchars] at hnumber
  simpa [intChars, tokens] using hnumber

theorem lexes_float (x : Binary64) : Lexes (encodeChars (floatChars x)) (tokens (.float x)) := by
  rw [floatChars, tokens]
  cases x.isFinite with
  | true =>
    have hnumber := lexes_number (Numeral.isValid_ofDecimal (Decimal.shortest x)) x.isNegative
    rwa [Numeral.chars_ofDecimal] at hnumber
  | false => exact lexes_null

theorem endsNumber_itemChars (ws : List Wire) {rest : Bytes} (h : EndsNumber rest) :
    EndsNumber (encodeChars (itemChars ws) ++ rest) := by
  cases ws with
  | nil => exact h
  | cons w ws => exact endsNumber_cons _ (by decide)

theorem endsNumber_memberChars (ms : List (String × Wire)) {rest : Bytes} (h : EndsNumber rest) :
    EndsNumber (encodeChars (memberChars ms) ++ rest) := by
  cases ms with
  | nil => exact h
  | cons m ms => exact endsNumber_cons _ (by decide)

theorem lexes_closeArray : Lexes [0x5D] [.closeArray] := lexes_nil.mark rfl fun _ => rfl

theorem lexes_closeObject : Lexes [0x7D] [.closeObject] := lexes_nil.mark rfl fun _ => rfl

mutual

theorem lexes_chars : (w : Wire) → Lexes (encodeChars w.chars) w.tokens
  | .null => lexes_null
  | .bool b => lexes_bool b
  | .int n => lexes_int n
  | .float x => lexes_float x
  | .text s => by
    rw [chars, tokens, ← List.append_nil (encodeChars _)]
    exact lexes_nil.quoted s
  | .list [] => lexes_closeArray.mark rfl fun _ => rfl
  | .list (w :: ws) => by
    have hsplit : encodeChars (Wire.list (w :: ws)).chars =
        0x5B :: (encodeChars w.chars ++ (encodeChars (itemChars ws) ++ [0x5D])) := by
      simp only [chars, encodeChars, List.flatMap_cons, List.flatMap_append, List.append_assoc]
      rfl
    have hitems := (lexes_itemChars ws).append lexes_closeArray fun _ _ =>
      endsNumber_cons _ (by decide)
    rw [hsplit, tokens]
    refine Lexes.mark ((lexes_chars w).append hitems fun rest _ => ?_) rfl fun _ => rfl
    rw [List.append_assoc]
    exact endsNumber_itemChars ws (endsNumber_cons _ (by decide))
  | .record [] => lexes_closeObject.mark rfl fun _ => rfl
  | .record ((k, w) :: ms) => by
    have hsplit : encodeChars (Wire.record ((k, w) :: ms)).chars =
        0x7B :: (encodeChars (quoted k) ++ (0x3A :: (encodeChars w.chars ++
          (encodeChars (memberChars ms) ++ [0x7D])))) := by
      simp only [chars, encodeChars, List.flatMap_cons, List.flatMap_append, List.append_assoc]
      rfl
    have hmembers := (lexes_memberChars ms).append lexes_closeObject fun _ _ =>
      endsNumber_cons _ (by decide)
    rw [hsplit, tokens]
    refine Lexes.mark (.quoted (.mark ((lexes_chars w).append hmembers fun rest _ => ?_) rfl
      fun _ => rfl) k) rfl fun _ => rfl
    rw [List.append_assoc]
    exact endsNumber_memberChars ms (endsNumber_cons _ (by decide))

theorem lexes_itemChars : (ws : List Wire) → Lexes (encodeChars (itemChars ws)) (itemTokens ws)
  | [] => lexes_nil
  | w :: ws => by
    have hsplit : encodeChars (itemChars (w :: ws)) =
        0x2C :: (encodeChars w.chars ++ encodeChars (itemChars ws)) := by
      simp only [itemChars, encodeChars, List.flatMap_cons, List.flatMap_append]
      rfl
    rw [hsplit, itemTokens]
    exact Lexes.mark ((lexes_chars w).append (lexes_itemChars ws) fun _ h =>
      endsNumber_itemChars ws h) rfl fun _ => rfl

theorem lexes_memberChars :
    (ms : List (String × Wire)) → Lexes (encodeChars (memberChars ms)) (memberTokens ms)
  | [] => lexes_nil
  | (k, w) :: ms => by
    have hsplit : encodeChars (memberChars ((k, w) :: ms)) =
        0x2C :: (encodeChars (quoted k) ++
          (0x3A :: (encodeChars w.chars ++ encodeChars (memberChars ms)))) := by
      simp only [memberChars, encodeChars, List.flatMap_cons, List.flatMap_append,
        List.append_assoc]
      rfl
    rw [hsplit, memberTokens]
    exact Lexes.mark (.quoted (.mark ((lexes_chars w).append (lexes_memberChars ms) fun _ h =>
      endsNumber_memberChars ms h) rfl fun _ => rfl) k) rfl fun _ => rfl

end

theorem tokensWithin_blanks {blanks : Bytes} (h : ∀ b ∈ blanks, isBlank b = true) (fuel : Nat) :
    tokensWithin fuel blanks = [] := by
  induction blanks generalizing fuel with
  | nil => cases fuel <;> rfl
  | cons b blanks ih =>
    obtain ⟨hb, hblanks⟩ := List.forall_mem_cons.mp h
    cases fuel with
    | zero => rfl
    | succ fuel => rw [tokensWithin, if_pos hb, ih hblanks]

theorem endsNumber_blanks {blanks : Bytes} (h : ∀ b ∈ blanks, isBlank b = true) :
    EndsNumber blanks := by
  cases blanks with
  | nil => exact nofun
  | cons b blanks =>
    have hb := h b List.mem_cons_self
    simp only [isBlank, Bool.or_eq_true, decide_eq_true_iff] at hb
    obtain ((rfl | rfl) | rfl) | rfl := hb <;> exact endsNumber_cons blanks (by decide)

/-- Blanks behind a value change nothing. -/
theorem tokens_eq (w : Wire) {blanks : Bytes} (h : ∀ b ∈ blanks, isBlank b = true) :
    Json.tokens (encodeChars w.chars ++ blanks) = w.tokens := by
  obtain ⟨fuel, -, htokens⟩ := lexes_chars w _ blanks (endsNumber_blanks h)
    (Nat.le_of_eq List.length_append.symm)
  rw [Json.tokens, htokens, tokensWithin_blanks h, List.append_nil]

/-- No value begins with the end of an array. -/
theorem build_itemOrEnd (w : Wire) (stack : List Frame) (ts : List Token) :
    build .itemOrEnd stack (w.tokens ++ ts) = build .value stack (w.tokens ++ ts) := by
  cases w with
  | list ws => cases ws <;> simp [tokens, build]
  | record ms => cases ms <;> simp [tokens, build]
  | float x => cases hx : x.isFinite <;> simp [tokens, hx, build, Token.scalar?]
  | _ => simp [tokens, build, Token.scalar?]

mutual

/-- The tokens of a value are put together to the value. -/
theorem build_tokens : (w : Wire) → (stack : List Frame) → (ts : List Token) →
    build .value stack (w.tokens ++ ts) = build (.separator w.value) stack ts
  | .null, _, _ => by simp [tokens, value, build, Token.scalar?]
  | .bool _, _, _ => by simp [tokens, value, build, Token.scalar?]
  | .int _, _, _ => by simp [tokens, value, build, Token.scalar?]
  | .float x, _, _ => by
    cases hx : x.isFinite <;> simp [tokens, value, hx, build, Token.scalar?]
  | .text _, _, _ => by simp [tokens, value, build, Token.scalar?]
  | .list [], _, _ => by simp [tokens, value, itemValues, build]
  | .list (w :: ws), stack, ts => by
    rw [tokens, List.cons_append, List.append_assoc, List.append_assoc, List.singleton_append,
      build, build_itemOrEnd, build_tokens w, build_itemTokens ws]
    rfl
  | .record [], _, _ => by simp [tokens, value, memberValues, build]
  | .record ((k, w) :: ms), stack, ts => by
    rw [tokens, List.cons_append, List.cons_append, List.cons_append, List.append_assoc,
      List.append_assoc, List.singleton_append, build, build, build, build_tokens w,
      build_memberTokens ms]
    rfl

theorem build_itemTokens : (ws : List Wire) → (before : Value) → (items : List Value) →
    (stack : List Frame) → (ts : List Token) →
    build (.separator before) (.array items :: stack) (itemTokens ws ++ .closeArray :: ts) =
      build (.separator (.array (items.reverse ++ before :: itemValues ws) true)) stack ts
  | [], before, items, _, _ => by simp [itemTokens, itemValues, build]
  | w :: ws, before, items, stack, ts => by
    rw [itemTokens, List.cons_append, List.append_assoc, build, build_tokens w,
      build_itemTokens ws, itemValues]
    simp

theorem build_memberTokens : (ms : List (String × Wire)) → (key : Bytes) → (before : Value) →
    (members : List (Bytes × Value)) → (stack : List Frame) → (ts : List Token) →
    build (.separator before) (.object members key :: stack)
        (memberTokens ms ++ .closeObject :: ts) =
      build (.separator (.object (members.reverse ++ (key, before) :: memberValues ms) true))
        stack ts
  | [], _, _, _, _, _ => by simp [memberTokens, memberValues, build]
  | (k, w) :: ms, key, before, members, stack, ts => by
    rw [memberTokens, List.cons_append, List.cons_append, List.cons_append, List.append_assoc,
      build, build, build, build_tokens w, build_memberTokens ms, memberValues]
    simp

end

end Wire

theorem Document.read_render_append (w : Wire) {blanks : Bytes}
    (h : ∀ b ∈ blanks, isBlank b = true) :
    Document.read (Utf8.encode w.render ++ blanks) = ⟨w.value, true⟩ := by
  have hbuild := Wire.build_tokens w [] []
  rw [List.append_nil] at hbuild
  rw [Document.read, Wire.render, Utf8.encode, String.toList_ofList, Wire.tokens_eq w h,
    Document.ofTokens, hbuild]
  rfl

/-- What is written is read as a document of just the value that was written. -/
theorem Document.read_render (w : Wire) : Document.read (Utf8.encode w.render) = ⟨w.value, true⟩ := by
  rw [← List.append_nil (Utf8.encode w.render), read_render_append w (List.forall_mem_nil _)]

/-! ## Numbers -/

section Numbers

variable {x : Binary64} {n : Int}

theorem toBinary64_shortest (hx : x.isFinite = true) :
    ((Numeral.ofDecimal (Decimal.shortest x)).literal x.isNegative).toBinary64 = x := by
  rw [Numeral.toBinary64_ofDecimal, Decimal.ofDecimal_shortest hx]

/-- A finite double is read back word for word. -/
theorem binary64_float (hx : x.isFinite = true) :
    Reader.binary64 (Wire.float x).value = .ok x := by
  rw [Wire.value, if_pos hx, Reader.binary64, toBinary64_shortest hx]
  exact if_pos hx

theorem storable_float (hx : x.isFinite = true) (depth : Nat) :
    (Wire.float x).value.storable depth = true := by
  rw [Wire.value, if_pos hx, Value.storable, toBinary64_shortest hx, hx]

theorem binary64_int (hn : n.natAbs < 2 ^ 64) :
    Reader.binary64 (Wire.int n).value = .ok (Binary64.ofInt n) := by
  rw [Wire.value, Reader.binary64, Numeral.toBinary64_ofNat hn]
  exact if_pos (Binary64.isFinite_ofInt hn)

theorem storable_int (hn : n.natAbs < 2 ^ 64) (depth : Nat) :
    (Wire.int n).value.storable depth = true := by
  rw [Wire.value, Value.storable, Numeral.toBinary64_ofNat hn, Binary64.isFinite_ofInt hn]

theorem integer_int {low high : Int} (hlow : Int64.minValue.toInt ≤ low)
    (hhigh : high < UInt64.size) (hl : low ≤ n) (hh : n ≤ high) :
    Reader.integer low high (Wire.int n).value = .ok n := by
  rw [Wire.value, Reader.integer, Numeral.toInt?_ofNat (by omega) (by omega)]
  exact if_pos ⟨hl, hh⟩

theorem int64_int (n : Int64) : Reader.int64 (Wire.int n.toInt).value = .ok n := by
  rw [Reader.int64, integer_int (Int.le_refl _) (by decide) n.minValue_le_toInt
    n.toInt_le]
  exact congrArg Except.ok (Int64.ofInt_toInt n)

theorem uint64_int (n : UInt64) : Reader.uint64 (Wire.int n.toNat).value = .ok n := by
  have hlt : n.toNat < UInt64.size := n.toNat_lt
  have hback : UInt64.ofNat (n.toNat : Int).toNat = n := by
    rw [Int.toNat_natCast, UInt64.ofNat_toNat]
  rw [Reader.uint64, integer_int (by decide) (by omega) (by omega) (by omega)]
  exact congrArg Except.ok hback

end Numbers

/-! ## Lists of strings -/

/-- The strings of a list are read in their order. -/
theorem list_itemValues_text (xs : List String) :
    Reader.list Reader.string (.array (Wire.itemValues (xs.map .text)) true) = .ok xs := by
  have hvalues : Wire.itemValues (xs.map .text) = xs.map fun x => .string (content x) := by
    induction xs with
    | nil => rfl
    | cons x xs ih => exact congrArg _ ih
  have hitems : (Wire.itemValues (xs.map .text)).mapM Reader.string =
      (.ok xs : Except Fault (List String)) := by
    rw [hvalues, Outcome.mapM_eq_ok_iff, List.forall₂_map_left_iff, List.forall₂_same]
    exact fun x _ => text_content x
  rw [Reader.list, hitems]
  rfl

end JobDashboard.Json
