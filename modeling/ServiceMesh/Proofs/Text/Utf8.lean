import ServiceMesh.Text.Utf8

/-! The bytes of a text, read again, are the characters of the text. -/
namespace ServiceMesh.Text

theorem utf8_eq (s : String) : utf8 s = s.toList.flatMap String.utf8EncodeChar := by
  rw [utf8, String.toUTF8, ← String.utf8Encode_toList, List.utf8Encode, List.data_toByteArray]

theorem toNat_ofNat_add {n base : Nat} (fits : n + base < 256) :
    (UInt8.ofNat (n + base)).toNat = n + base := by
  rw [UInt8.toNat_ofNat', Nat.mod_eq_of_lt fits]

theorem continuation?_ofNat {n : Nat} (six : n < 64) :
    continuation? (UInt8.ofNat (n + 0x80)) = some n := by
  rw [continuation?, toNat_ofNat_add (by omega), if_pos (by simp; omega), Nat.add_sub_cancel]

theorem charOf?_toNat {least : Nat} {c : Char} (long : least ≤ c.toNat) :
    charOf? least c.toNat = some c := by
  rw [charOf?, if_pos (by simpa using ⟨long, c.valid⟩), Char.ofNat_toNat]

theorem mapM_continuation? (sixes : List Nat) (small : ∀ n ∈ sixes, n < 64) (rest : List UInt8) :
    ((sixes.map (fun n => UInt8.ofNat (n + 0x80)) ++ rest).take sixes.length).mapM continuation? =
      some sixes := by
  rw [List.take_left' (List.length_map _)]
  induction sixes with
  | nil => rfl
  | cons n sixes ih =>
      obtain ⟨head, tail⟩ := List.forall_mem_cons.mp small
      rw [List.map_cons, List.mapM_cons, continuation?_ofNat head, ih tail]
      rfl

/-! ### The first character, by the number of its bytes -/

variable {lead a b c : Nat} (rest : List UInt8)

theorem decodeFirst?_one (ascii : lead < 0x80) :
    decodeFirst? (UInt8.ofNat lead) rest = some (Char.ofNat lead, 0) := by
  have byte : (UInt8.ofNat lead).toNat = lead := @toNat_ofNat_add lead 0 (by omega)
  rw [decodeFirst?, byte, if_pos ascii]

theorem decodeFirst?_two (five : lead < 32) (six : a < 64) :
    decodeFirst? (UInt8.ofNat (lead + 0xc0)) (UInt8.ofNat (a + 0x80) :: rest) =
      (charOf? 0x80 (lead * 64 + a)).map (·, 1) := by
  have tail : ((UInt8.ofNat (a + 0x80) :: rest).take 1).mapM continuation? = some [a] :=
    mapM_continuation? [a] (by simpa using six) rest
  rw [decodeFirst?, toNat_ofNat_add (by omega), if_neg (by omega), if_neg (by omega),
    if_pos (by omega), tail, Nat.add_sub_cancel]
  exact Option.map_eq_bind.symm

theorem decodeFirst?_three (four : lead < 16) (six : a < 64 ∧ b < 64) :
    decodeFirst? (UInt8.ofNat (lead + 0xe0))
        (UInt8.ofNat (a + 0x80) :: UInt8.ofNat (b + 0x80) :: rest) =
      (charOf? 0x800 ((lead * 64 + a) * 64 + b)).map (·, 2) := by
  have tail : ((UInt8.ofNat (a + 0x80) :: UInt8.ofNat (b + 0x80) :: rest).take 2).mapM
      continuation? = some [a, b] :=
    mapM_continuation? [a, b] (by simpa using six) rest
  rw [decodeFirst?, toNat_ofNat_add (by omega), if_neg (by omega), if_neg (by omega),
    if_neg (by omega), if_pos (by omega), tail, Nat.add_sub_cancel]
  exact Option.map_eq_bind.symm

theorem decodeFirst?_four (three : lead < 8) (six : a < 64 ∧ b < 64 ∧ c < 64) :
    decodeFirst? (UInt8.ofNat (lead + 0xf0))
        (UInt8.ofNat (a + 0x80) :: UInt8.ofNat (b + 0x80) :: UInt8.ofNat (c + 0x80) :: rest) =
      (charOf? 0x10000 (((lead * 64 + a) * 64 + b) * 64 + c)).map (·, 3) := by
  have tail : ((UInt8.ofNat (a + 0x80) :: UInt8.ofNat (b + 0x80) :: UInt8.ofNat (c + 0x80) ::
      rest).take 3).mapM continuation? = some [a, b, c] :=
    mapM_continuation? [a, b, c] (by simpa using six) rest
  rw [decodeFirst?, toNat_ofNat_add (by omega), if_neg (by omega), if_neg (by omega),
    if_neg (by omega), if_neg (by omega), if_pos (by omega), tail, Nat.add_sub_cancel]
  exact Option.map_eq_bind.symm

theorem toNat_lt (c : Char) : c.toNat < 0x110000 := by
  rcases c.valid with low | ⟨-, high⟩
  · exact Nat.lt_trans low (by decide)
  · exact high

/-- The bytes of a character tell it, whatever comes behind them. -/
theorem decodeFirst?_encode (c : Char) (rest : List UInt8) :
    ∃ byte more, String.utf8EncodeChar c = byte :: more ∧
      decodeFirst? byte (more ++ rest) = some (c, more.length) := by
  have bound := toNat_lt c
  unfold String.utf8EncodeChar
  extract_lets v
  have code : v = c.toNat := rfl
  by_cases one : v ≤ 127
  · rw [if_pos one, code]
    exact ⟨_, _, rfl, by rw [decodeFirst?_one _ (by omega), Char.ofNat_toNat]; rfl⟩
  by_cases two : v ≤ 2047
  · rw [if_neg one, if_pos two]
    refine ⟨_, _, rfl, ?_⟩
    rw [List.singleton_append, decodeFirst?_two rest (by omega) (by omega),
      show v / 64 % 32 * 64 + v % 64 = c.toNat by omega, charOf?_toNat (by omega)]
    rfl
  by_cases three : v ≤ 65535
  · rw [if_neg one, if_neg two, if_pos three]
    refine ⟨_, _, rfl, ?_⟩
    rw [List.cons_append, List.singleton_append,
      decodeFirst?_three rest (by omega) ⟨by omega, by omega⟩,
      show (v / 4096 % 16 * 64 + v / 64 % 64) * 64 + v % 64 = c.toNat by omega,
      charOf?_toNat (by omega)]
    rfl
  · rw [if_neg one, if_neg two, if_neg three]
    refine ⟨_, _, rfl, ?_⟩
    rw [List.cons_append, List.cons_append, List.singleton_append,
      decodeFirst?_four rest (by omega) ⟨by omega, by omega, by omega⟩,
      show ((v / 262144 % 8 * 64 + v / 4096 % 64) * 64 + v / 64 % 64) * 64 + v % 64 = c.toNat
        by omega,
      charOf?_toNat (by omega)]
    rfl

theorem decodeUtf8_utf8 (s : String) : decodeUtf8 (utf8 s) = s.toList.map some := by
  rw [utf8_eq]
  induction s.toList with
  | nil => rw [List.flatMap_nil, decodeUtf8, List.map_nil]
  | cons c chars ih =>
      obtain ⟨byte, more, encoded, first⟩ :=
        decodeFirst?_encode c (chars.flatMap String.utf8EncodeChar)
      rw [List.flatMap_cons, encoded, List.cons_append, decodeUtf8, first, List.map_cons]
      simp only [List.drop_left, ih]

theorem utf8_injective : Function.Injective utf8 := by
  intro s t same
  have read := congrArg decodeUtf8 same
  rw [decodeUtf8_utf8, decodeUtf8_utf8] at read
  exact String.toList_injective ((List.map_inj_right fun _ _ => Option.some.inj).mp read)

/-! ### ASCII -/

theorem utf8EncodeChar_ascii {c : Char} (ascii : c.toNat < 0x80) :
    String.utf8EncodeChar c = [UInt8.ofNat c.toNat] := by
  have one : c.val.toNat ≤ 127 := Nat.le_of_lt_succ ascii
  rw [String.utf8EncodeChar, if_pos one]
  rfl

/-- Each ASCII character is a byte of its own. -/
theorem utf8_ascii {s : String} (ascii : ∀ c ∈ s.toList, c.toNat < 0x80) :
    utf8 s = s.toList.map fun c => UInt8.ofNat c.toNat := by
  rw [utf8_eq]
  generalize s.toList = chars at ascii
  induction chars with
  | nil => rfl
  | cons c chars ih =>
      obtain ⟨first, others⟩ := List.forall_mem_cons.mp ascii
      rw [List.flatMap_cons, utf8EncodeChar_ascii first, ih others, List.map_cons]
      rfl

theorem decodeUtf8_ascii {bytes : List UInt8} (ascii : ∀ byte ∈ bytes, byte.toNat < 0x80) :
    decodeUtf8 bytes = bytes.map fun byte => some (Char.ofNat byte.toNat) := by
  induction bytes with
  | nil => rw [decodeUtf8, List.map_nil]
  | cons byte bytes ih =>
      obtain ⟨first, others⟩ := List.forall_mem_cons.mp ascii
      have alone := decodeFirst?_one bytes first
      rw [UInt8.ofNat_toNat] at alone
      rw [decodeUtf8, alone, List.map_cons]
      simp only [List.drop_zero, ih others]

/-- A text whose bytes are all ASCII has a character for each of them. -/
theorem toList_of_ascii {s : String} (ascii : ∀ byte ∈ utf8 s, byte.toNat < 0x80) :
    s.toList = (utf8 s).map fun byte => Char.ofNat byte.toNat := by
  refine (List.map_inj_right fun _ _ => Option.some.inj).mp ?_
  rw [← decodeUtf8_utf8, decodeUtf8_ascii ascii, List.map_map]
  rfl

end ServiceMesh.Text
