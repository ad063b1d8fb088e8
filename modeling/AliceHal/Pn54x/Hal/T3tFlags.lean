import AliceHal.Pn54x.Hal.Ext

/-!
# The Swap of `LF_T3T_FLAGS`

The walk through the parameters of a `CORE_SET_CONFIG_CMD` at the end of `phNxpNciHal_write_ext`,
for any bytes behind the header. It compares its position with the end of the packet, but not the
bytes it reads and swaps.

- `t3tAccesses`: the bytes that the walk reads and writes
- `ConfigParam`, `encode`: well-formed parameters
- `Confined`: the walk stays in the packet, and swaps the value of one parameter at most
- `Fits`, `FlagsSwapped`: the parameters for which it does
- `confined_iff`: there are no others
-/

namespace AliceHal.Pn54x.Hal

open Lib

/-- The indices that are read or written, in the order of the walk. -/
def t3tAccesses (p : Memory) (stop i : ℕ) : List ℕ :=
  if i < stop then
    -- the swap of the two bytes behind the length ends the walk
    if p i == 0x53 then [i, i + 2, i + 3]
    else if p i == 0xA0 then i :: (i + 2) :: t3tAccesses p stop (i + (p (i + 2)).toNat + 3)
    else i :: (i + 1) :: t3tAccesses p stop (i + (p (i + 1)).toNat + 2)
  else []
termination_by stop - i

/-! ## Parameters -/

/-- An identifier: one byte, or two of which the first is `0xA0`. -/
inductive ParamId where
  | short (b : UInt8) (h : b ≠ 0xA0)
  | long (b : UInt8)

namespace ParamId

def bytes : ParamId → List UInt8
  | short b _ => [b]
  | long b => [0xA0, b]

/-- `LF_T3T_FLAGS` -/
def IsFlags : ParamId → Prop
  | short b _ => b = 0x53
  | long _ => False

instance : DecidablePred IsFlags
  | short b _ => inferInstanceAs (Decidable (b = 0x53))
  | long _ => inferInstanceAs (Decidable False)

end ParamId

/-- A parameter, whose value has a length of one byte. -/
structure ConfigParam where
  id : ParamId
  value : List UInt8
  length_lt : value.length < 256

namespace ConfigParam

/-- Identifier, length and value. -/
def bytes (c : ConfigParam) : List UInt8 :=
  c.id.bytes ++ UInt8.ofNat c.value.length :: c.value

/-- The value of two bytes, exchanged. -/
def exchange (c : ConfigParam) : ConfigParam where
  id := c.id
  value := c.value.reverse
  length_lt := by
    rw [List.length_reverse]
    exact c.length_lt

end ConfigParam

/-- A list of parameters, as it stands in a packet. -/
def encode (params : List ConfigParam) : List UInt8 := params.flatMap ConfigParam.bytes

/-- The value of the first `LF_T3T_FLAGS` of length 2, exchanged. -/
def swapFirst : List ConfigParam → List ConfigParam
  | [] => []
  | c :: params =>
    if c.id.IsFlags ∧ c.value.length = 2 then c.exchange :: params else c :: swapFirst params

/-- The bytes of a packet from `i` to its end. -/
def bytesFrom (p : Memory) (stop i : ℕ) : List UInt8 := Memory.slice (fun j => p (i + j)) (stop - i)

/-- The walk reads and writes bytes of the packet only, and the packet is changed, if its parameters
are well-formed, by the exchange of the value of the first `LF_T3T_FLAGS` of length 2 only. -/
structure Confined (r : NFCSTATUS × HalState) : Prop where
  inside : ∀ i ∈ t3tAccesses r.2.pCmdData r.2.cmdLen 4, i < r.2.cmdLen
  exchanged : ∀ params, bytesFrom r.2.pCmdData r.2.cmdLen 4 = encode params →
    (HalState.swapT3tFlags r).2.pCmdData = r.2.pCmdData ∨
      (HalState.swapT3tFlags r).2.pCmdData = r.2.pCmdData.put 4 (encode (swapFirst params))

/-- Bytes in which every identifier up to `LF_T3T_FLAGS` is followed by its length, and
`LF_T3T_FLAGS` by three bytes. -/
inductive Fits : List UInt8 → Prop
  | nil : Fits []
  | flags (x y z : UInt8) (bs : List UInt8) : Fits (0x53 :: x :: y :: z :: bs)
  | long (b len : UInt8) (bs : List UInt8) : Fits (bs.drop len.toNat) → Fits (0xA0 :: b :: len :: bs)
  | short (b len : UInt8) (bs : List UInt8) : b ≠ 0x53 → b ≠ 0xA0 → Fits (bs.drop len.toNat) →
      Fits (b :: len :: bs)

/-- The first `LF_T3T_FLAGS` has length 2, or the two bytes behind its length are the same. -/
def FlagsSwapped : List ConfigParam → Prop
  | [] => True
  | c :: params =>
    if c.id.IsFlags then
      c.value.length = 2 ∨ (c.value ++ encode params)[0]? = (c.value ++ encode params)[1]?
    else FlagsSwapped params

variable {p : Memory} {stop i : ℕ} {b : UInt8} {bs : List UInt8} {c : ConfigParam}
  {params before behind : List ConfigParam}

/-! ## The bytes of the packet -/

theorem bytesFrom_of_le (h : stop ≤ i) : bytesFrom p stop i = [] := by
  rw [bytesFrom, Nat.sub_eq_zero_of_le h]
  rfl

theorem bytesFrom_of_lt (h : i < stop) : bytesFrom p stop i = p i :: bytesFrom p stop (i + 1) := by
  obtain ⟨k, hk⟩ := Nat.exists_eq_add_of_lt h
  have hk₁ : stop - i = k + 1 := by omega
  have hk₂ : stop - (i + 1) = k := by omega
  rw [bytesFrom, bytesFrom, hk₁, hk₂, Memory.slice, Memory.slice, List.range_succ_eq_map,
    List.map_cons, List.map_map]
  apply congrArg₂ List.cons rfl
  apply List.map_congr_left
  intro j _
  exact congrArg p (by simp only [Nat.succ_eq_add_one]; omega)

/-- The first byte, and what follows it. -/
theorem bytesFrom_eq_cons : bytesFrom p stop i = b :: bs ↔
    i < stop ∧ p i = b ∧ bytesFrom p stop (i + 1) = bs := by
  by_cases h : i < stop
  · rw [bytesFrom_of_lt h, List.cons.injEq]
    exact (and_iff_right h).symm
  · rw [bytesFrom_of_le (not_lt.1 h)]
    simp [h]

theorem bytesFrom_drop (k : ℕ) : (bytesFrom p stop i).drop k = bytesFrom p stop (i + k) := by
  induction k generalizing i with
  | zero => rfl
  | succ k ih =>
    by_cases h : i < stop
    · rw [bytesFrom_of_lt h, List.drop_succ_cons, ih, Nat.add_right_comm, Nat.add_assoc]
    · rw [bytesFrom_of_le (not_lt.1 h), bytesFrom_of_le (by omega), List.drop_nil]

/-- What follows some of the bytes. -/
theorem bytesFrom_of_append {bs' : List UInt8} (h : bytesFrom p stop i = bs ++ bs') :
    bytesFrom p stop (i + bs.length) = bs' := by
  rw [← bytesFrom_drop, h, List.drop_left]

theorem length_bytesFrom : (bytesFrom p stop i).length = stop - i := Memory.slice_length

/-! ## Accesses -/

theorem t3tAccesses_of_end (h : stop ≤ i) : t3tAccesses p stop i = [] := by
  rw [t3tAccesses, if_neg (Nat.not_lt.2 h)]

theorem t3tAccesses_of_flags (h : i < stop) (hb : p i = 0x53) :
    t3tAccesses p stop i = [i, i + 2, i + 3] := by
  rw [t3tAccesses, if_pos h, if_pos (beq_iff_eq.2 hb)]

theorem t3tAccesses_of_long (h : i < stop) (hA : p i = 0xA0) :
    t3tAccesses p stop i =
      i :: (i + 2) :: t3tAccesses p stop (i + (p (i + 2)).toNat + 3) := by
  have hb : ¬(p i == 0x53) = true := by
    rw [hA]
    decide
  rw [t3tAccesses, if_pos h, if_neg hb, if_pos (beq_iff_eq.2 hA)]

theorem t3tAccesses_of_short (h : i < stop) (hb : p i ≠ 0x53) (hA : p i ≠ 0xA0) :
    t3tAccesses p stop i =
      i :: (i + 1) :: t3tAccesses p stop (i + (p (i + 1)).toNat + 2) := by
  rw [t3tAccesses, if_pos h, if_neg fun heq => hb (beq_iff_eq.1 heq),
    if_neg fun heq => hA (beq_iff_eq.1 heq)]

/-- The walk depends on the bytes that it accesses. -/
theorem t3tScan_of_accesses {q : Memory} (h : ∀ j ∈ t3tAccesses p stop i, p j = q j) :
    t3tScan p stop i = t3tScan q stop i := by
  induction i using t3tScan_induct p stop with
  | done i hle => rw [t3tScan_of_end hle, t3tScan_of_end hle]
  | flags i hlt hb =>
    rw [t3tAccesses_of_flags hlt hb] at h
    have hq : q i = 0x53 := (h i (by simp)).symm.trans hb
    rw [t3tScan_of_flags hlt hb, t3tScan_of_flags hlt hq]
  | long i hlt hA ih =>
    rw [t3tAccesses_of_long hlt hA, List.forall_mem_cons, List.forall_mem_cons] at h
    rw [t3tScan_of_long hlt hA, t3tScan_of_long hlt (h.1 ▸ hA), ← h.2.1]
    exact ih h.2.2
  | short i hlt hb hA ih =>
    rw [t3tAccesses_of_short hlt hb hA, List.forall_mem_cons, List.forall_mem_cons] at h
    rw [t3tScan_of_short hlt hb hA, t3tScan_of_short hlt (h.1 ▸ hb) (h.1 ▸ hA), ← h.2.1]
    exact ih h.2.2

/-! ## Bytes that fit -/

theorem fits_flags_iff : Fits (0x53 :: bs) ↔ 3 ≤ bs.length := by
  constructor
  · intro h
    cases h with
    | flags x y z bs => simp
    | short _ _ _ hne _ _ => exact absurd rfl hne
  · intro h
    match bs, h with
    | x :: y :: z :: bs, _ => exact Fits.flags x y z bs

theorem fits_long_iff : Fits (0xA0 :: bs) ↔
    ∃ b len rest, bs = b :: len :: rest ∧ Fits (rest.drop len.toNat) := by
  constructor
  · intro h
    cases h with
    | long b len rest h => exact ⟨b, len, rest, rfl, h⟩
    | short _ _ _ _ hne _ => exact absurd rfl hne
  · rintro ⟨b, len, rest, rfl, h⟩
    exact Fits.long b len rest h

theorem fits_short_iff (hb : b ≠ 0x53) (hA : b ≠ 0xA0) : Fits (b :: bs) ↔
    ∃ len rest, bs = len :: rest ∧ Fits (rest.drop len.toNat) := by
  constructor
  · intro h
    cases h with
    | flags => exact absurd rfl hb
    | long => exact absurd rfl hA
    | short _ len rest _ _ h => exact ⟨len, rest, rfl, h⟩
  · rintro ⟨len, rest, rfl, h⟩
    exact Fits.short b len rest hb hA h

/-- The accesses are in the packet exactly when the bytes fit. -/
theorem inside_iff_fits :
    (∀ j ∈ t3tAccesses p stop i, j < stop) ↔ Fits (bytesFrom p stop i) := by
  induction i using t3tScan_induct p stop with
  | done i hle => simp [t3tAccesses_of_end hle, bytesFrom_of_le hle, Fits.nil]
  | flags i hlt hb =>
    rw [t3tAccesses_of_flags hlt hb, bytesFrom_of_lt hlt, hb, fits_flags_iff, length_bytesFrom]
    simp only [List.forall_mem_cons, List.not_mem_nil, false_imp_iff, implies_true, and_true]
    omega
  | long i hlt hA ih =>
    rw [t3tAccesses_of_long hlt hA, List.forall_mem_cons, List.forall_mem_cons, ih,
      bytesFrom_of_lt hlt, hA, fits_long_iff, and_iff_right hlt]
    constructor
    · rintro ⟨hlen, hrest⟩
      refine ⟨p (i + 1), p (i + 2), bytesFrom p stop (i + 3), ?_, ?_⟩
      · rw [bytesFrom_of_lt (i := i + 1) (by omega), bytesFrom_of_lt (i := i + 1 + 1) hlen]
      · rw [bytesFrom_drop, Nat.add_right_comm]
        exact hrest
    · rintro ⟨b, len, rest, hbytes, hrest⟩
      obtain ⟨-, -, hbytes⟩ := bytesFrom_eq_cons.1 hbytes
      obtain ⟨hlen, rfl, rfl⟩ := bytesFrom_eq_cons.1 hbytes
      rw [bytesFrom_drop] at hrest
      exact ⟨hlen, by rwa [Nat.add_right_comm]⟩
  | short i hlt hb hA ih =>
    rw [t3tAccesses_of_short hlt hb hA, List.forall_mem_cons, List.forall_mem_cons, ih,
      bytesFrom_of_lt hlt, fits_short_iff hb hA, and_iff_right hlt]
    constructor
    · rintro ⟨hlen, hrest⟩
      refine ⟨p (i + 1), bytesFrom p stop (i + 2), bytesFrom_of_lt hlen, ?_⟩
      rw [bytesFrom_drop, Nat.add_right_comm]
      exact hrest
    · rintro ⟨len, rest, hbytes, hrest⟩
      obtain ⟨hlen, rfl, rfl⟩ := bytesFrom_eq_cons.1 hbytes
      rw [bytesFrom_drop] at hrest
      exact ⟨hlen, by rwa [Nat.add_right_comm]⟩

/-! ## The walk on well-formed parameters -/

theorem encode_cons (c : ConfigParam) (params : List ConfigParam) :
    encode (c :: params) = c.bytes ++ encode params := List.flatMap_cons

theorem encode_append (before behind : List ConfigParam) :
    encode (before ++ behind) = encode before ++ encode behind := List.flatMap_append

theorem toNat_length (c : ConfigParam) : (UInt8.ofNat c.value.length).toNat = c.value.length := by
  rw [UInt8.toNat_ofNat', Nat.mod_eq_of_lt c.length_lt]

/-- A parameter that is not `LF_T3T_FLAGS` is passed over. -/
theorem t3tScan_param (h : bytesFrom p stop i = c.bytes ++ bs) (hc : ¬c.id.IsFlags) :
    t3tScan p stop i = t3tScan p stop (i + c.bytes.length) := by
  obtain ⟨id, value, hlt⟩ := c
  cases id with
  | short b hb =>
    obtain ⟨hi, hpi, hrest⟩ := bytesFrom_eq_cons.1 h
    obtain ⟨-, hlen, -⟩ := bytesFrom_eq_cons.1 hrest
    have hvalue : (p (i + 1)).toNat = value.length := by
      rw [hlen]
      exact toNat_length ⟨_, value, hlt⟩
    rw [t3tScan_of_short hi (by rwa [hpi]) (by rwa [hpi]), hvalue]
    rfl
  | long b =>
    obtain ⟨hi, hpi, hrest⟩ := bytesFrom_eq_cons.1 h
    obtain ⟨-, -, hrest⟩ := bytesFrom_eq_cons.1 hrest
    obtain ⟨-, hlen, -⟩ := bytesFrom_eq_cons.1 hrest
    have hvalue : (p (i + 2)).toNat = value.length := by
      rw [hlen]
      exact toNat_length ⟨_, value, hlt⟩
    rw [t3tScan_of_long hi hpi, hvalue]
    rfl

/-- Parameters without `LF_T3T_FLAGS` are passed over. -/
theorem t3tScan_params (h : bytesFrom p stop i = encode before ++ bs)
    (hbefore : ∀ d ∈ before, ¬d.id.IsFlags) :
    t3tScan p stop i = t3tScan p stop (i + (encode before).length) := by
  induction before generalizing i with
  | nil => rfl
  | cons d before ih =>
    rw [List.forall_mem_cons] at hbefore
    rw [encode_cons, List.append_assoc] at h
    rw [t3tScan_param h hbefore.1, ih (bytesFrom_of_append h) hbefore.2, encode_cons,
      List.length_append, Nat.add_assoc]

/-- The bytes of a packet are read from it. -/
theorem reads_of_bytesFrom (h : bytesFrom p stop i = bs) : p.reads i bs = true := by
  induction bs generalizing i with
  | nil => rfl
  | cons b bs ih =>
    obtain ⟨-, hb, hrest⟩ := bytesFrom_eq_cons.1 h
    rw [Memory.reads, hb, ih hrest, beq_self_eq_true, Bool.and_true]

/-! ## The swap on well-formed parameters -/

/-- `LF_T3T_FLAGS`, its length and its value. -/
theorem bytes_of_isFlags (hc : c.id.IsFlags) :
    c.bytes = 0x53 :: UInt8.ofNat c.value.length :: c.value := by
  obtain ⟨id, value, hlt⟩ := c
  cases id with
  | short b hb =>
    obtain rfl : b = 0x53 := hc
    rfl
  | long b => cases hc

theorem swapFirst_append (hbefore : ∀ d ∈ before, ¬d.id.IsFlags) :
    swapFirst (before ++ params) = before ++ swapFirst params := by
  induction before with
  | nil => rfl
  | cons d before ih =>
    rw [List.forall_mem_cons] at hbefore
    rw [List.cons_append, swapFirst, if_neg fun h => hbefore.1 h.1, ih hbefore.2, List.cons_append]

/-- The first identifier stays where it is. -/
theorem head_encode_swapFirst (params : List ConfigParam) :
    (encode (swapFirst params)).head? = (encode params).head? := by
  cases params with
  | nil => rfl
  | cons c params =>
    have hid : ∀ (id : ParamId) (bs bs' : List UInt8),
        (id.bytes ++ bs).head? = (id.bytes ++ bs').head? := by
      intro id bs bs'
      cases id <;> rfl
    rw [swapFirst]
    split
    · rw [encode_cons, encode_cons, ConfigParam.bytes, ConfigParam.bytes, List.append_assoc,
        List.append_assoc]
      exact hid _ _ _
    · rw [encode_cons, encode_cons, ConfigParam.bytes, List.append_assoc, List.append_assoc]
      exact hid _ _ _

section

variable (h : bytesFrom p stop i = encode (before ++ c :: behind))
  (hbefore : ∀ d ∈ before, ¬d.id.IsFlags) (hc : c.id.IsFlags)
include h hc

theorem bytesFrom_flags : bytesFrom p stop i =
    encode before ++ 0x53 :: UInt8.ofNat c.value.length :: (c.value ++ encode behind) := by
  rw [h, encode_append, encode_cons, bytes_of_isFlags hc]
  rfl

include hbefore in
/-- The walk ends at the first `LF_T3T_FLAGS`. -/
theorem t3tScan_flags : t3tScan p stop i = some (i + (encode before).length) := by
  have hbytes := bytesFrom_flags h hc
  rw [t3tScan_params hbytes hbefore]
  obtain ⟨hlt, hb, -⟩ := bytesFrom_eq_cons.1 (bytesFrom_of_append hbytes)
  exact t3tScan_of_flags hlt hb

/-- What stands behind its length. -/
theorem reads_behind_length :
    p.reads (i + (encode before).length + 2) (c.value ++ encode behind) = true := by
  have hbytes := bytesFrom_of_append (bytesFrom_flags h hc)
  obtain ⟨-, -, hbytes⟩ := bytesFrom_eq_cons.1 hbytes
  obtain ⟨-, -, hbytes⟩ := bytesFrom_eq_cons.1 hbytes
  exact reads_of_bytesFrom hbytes

/-- Other bytes behind its length. -/
theorem put_behind_length (bs : List UInt8) :
    p.put i (encode before ++ 0x53 :: UInt8.ofNat c.value.length :: bs) =
      p.put (i + (encode before).length + 2) bs := by
  have hreads := reads_of_bytesFrom (bytesFrom_flags h hc)
  have hsplit : ∀ bs : List UInt8, encode before ++ 0x53 :: UInt8.ofNat c.value.length :: bs =
      (encode before ++ [0x53, UInt8.ofNat c.value.length]) ++ bs := by
    intro bs
    simp
  rw [hsplit] at hreads ⊢
  rw [Memory.put_append, Memory.put_of_reads (Memory.reads_append.1 hreads).1, List.length_append, Nat.add_assoc]
  rfl

include hbefore in
/-- The value of length 2 is exchanged. -/
theorem put_swapFirst_of_two (hlength : c.value.length = 2) :
    p.put i (encode (swapFirst (before ++ c :: behind))) =
      p.put (i + (encode before).length + 2)
        [p (i + (encode before).length + 3), p (i + (encode before).length + 2)] := by
  have hreads := reads_behind_length h hc
  obtain ⟨x, y, hvalue⟩ := List.length_eq_two.1 hlength
  have hxy := Memory.reads_append.1 hreads
  have hflags : c.exchange.id.IsFlags := hc
  rw [swapFirst_append hbefore, swapFirst, if_pos ⟨hc, hlength⟩, encode_append, encode_cons,
    bytes_of_isFlags hflags]
  have hexchange : c.exchange.value = [y, x] := by
    change c.value.reverse = [y, x]
    rw [hvalue]
    rfl
  have hsame : c.exchange.value.length = c.value.length := List.length_reverse
  rw [hsame, List.cons_append, List.cons_append, put_behind_length h hc, Memory.put_append, hexchange]
  rw [hvalue, Memory.reads_eq_true] at hxy
  have hx := hxy.1 0 (by simp)
  have hy := hxy.1 1 (by simp)
  have hrest : (p.put (i + (encode before).length + 2) [y, x]).reads
      (i + (encode before).length + 2 + 2) (encode behind) = true := by
    rw [Memory.reads_put_of_le (by simp)]
    exact hxy.2
  rw [List.length_cons, List.length_cons, List.length_nil, Memory.put_of_reads hrest]
  congr 1
  rw [List.cons.injEq, List.cons.injEq]
  exact ⟨hy.symm, hx.symm, rfl⟩

include hbefore in
/-- An exchange further behind leaves the byte behind the length as it is. -/
theorem put_swapFirst_apply (hlength : c.value.length ≠ 2) :
    p.put i (encode (swapFirst (before ++ c :: behind))) (i + (encode before).length + 2) =
      p (i + (encode before).length + 2) := by
  have hnot : ¬(c.id.IsFlags ∧ c.value.length = 2) := fun hand => hlength hand.2
  rw [swapFirst_append hbefore, swapFirst, if_neg hnot, encode_append, encode_cons,
    bytes_of_isFlags hc, List.cons_append, List.cons_append, put_behind_length h hc]
  have hreads := reads_behind_length h hc
  have hhead : (c.value ++ encode (swapFirst behind)).head? = (c.value ++ encode behind).head? := by
    rw [List.head?_append, List.head?_append, head_encode_swapFirst]
  cases hbs : c.value ++ encode (swapFirst behind) with
  | nil => exact Memory.put_of_le (Nat.le_of_eq (Nat.add_zero _))
  | cons b bs =>
    rw [hbs] at hhead
    obtain ⟨bs', hbs'⟩ : ∃ bs', c.value ++ encode behind = b :: bs' :=
      List.head?_eq_some_iff.1 hhead.symm
    rw [hbs', Memory.reads, Bool.and_eq_true, beq_iff_eq] at hreads
    have hput : p.put (i + (encode before).length + 2) (b :: bs) (i + (encode before).length + 2) = b :=
      Memory.put_add (j := 0) (by simp)
    exact hput.trans hreads.1.symm

end

/-- Bytes that fit behind parameters without `LF_T3T_FLAGS`. -/
theorem fits_behind {bs : List UInt8} (hbefore : ∀ d ∈ before, ¬d.id.IsFlags)
    (hfits : Fits (encode before ++ bs)) : Fits bs := by
  induction before with
  | nil => exact hfits
  | cons d before ih =>
    rw [List.forall_mem_cons] at hbefore
    apply ih hbefore.2
    obtain ⟨id, value, hlt⟩ := d
    have hlen : (UInt8.ofNat value.length).toNat = value.length := toNat_length ⟨id, value, hlt⟩
    rw [encode_cons, List.append_assoc, ConfigParam.bytes, List.append_assoc] at hfits
    have hdrop : ∀ rest : List UInt8, value ++ (encode before ++ bs) = rest →
        Fits (rest.drop (UInt8.ofNat value.length).toNat) → Fits (encode before ++ bs) := by
      rintro rest rfl hrest
      rwa [hlen, List.drop_left] at hrest
    cases id with
    | short b hb =>
      have hbytes : Fits (b :: UInt8.ofNat value.length :: (value ++ (encode before ++ bs))) := hfits
      obtain ⟨len, rest, hrest, hfits⟩ := (fits_short_iff hbefore.1 hb).1 hbytes
      obtain ⟨rfl, htail⟩ := List.cons.inj hrest
      exact hdrop rest htail hfits
    | long b =>
      have hbytes :
          Fits (0xA0 :: b :: UInt8.ofNat value.length :: (value ++ (encode before ++ bs))) := hfits
      obtain ⟨b', len, rest, hrest, hfits⟩ := fits_long_iff.1 hbytes
      obtain ⟨-, hlong⟩ := List.cons.inj hrest
      obtain ⟨rfl, htail⟩ := List.cons.inj hlong
      exact hdrop rest htail hfits

/-- Two bytes stand behind the length of `LF_T3T_FLAGS` when the bytes fit. -/
theorem exists_behind_length (h : bytesFrom p stop i = encode (before ++ c :: behind))
    (hbefore : ∀ d ∈ before, ¬d.id.IsFlags) (hc : c.id.IsFlags) (hfits : Fits (bytesFrom p stop i)) :
    ∃ x y rest, c.value ++ encode behind = x :: y :: rest := by
  rw [bytesFrom_flags h hc] at hfits
  have hlength := fits_flags_iff.1 (fits_behind hbefore hfits)
  match hbs : c.value ++ encode behind, hlength with
  | x :: y :: rest, _ => exact ⟨x, y, rest, rfl⟩

/-- Two bytes that are swapped stay as they are when they are the same. -/
theorem put_swap_eq_self (h : p i = p (i + 1)) : p.put i [p (i + 1), p i] = p := by
  apply Memory.put_of_reads
  simp [Memory.reads, h]

/-! ## When the swap is confined -/

/-- The first `LF_T3T_FLAGS` of a list. -/
theorem exists_first (h : ∃ c ∈ params, c.id.IsFlags) : ∃ before c behind,
    params = before ++ c :: behind ∧ (∀ d ∈ before, ¬d.id.IsFlags) ∧ c.id.IsFlags := by
  induction params with
  | nil => simp at h
  | cons d params ih =>
    by_cases hd : d.id.IsFlags
    · exact ⟨[], d, params, rfl, by simp, hd⟩
    · obtain ⟨before, c, behind, rfl, hbefore, hc⟩ := ih (by simpa [hd] using h)
      refine ⟨d :: before, c, behind, rfl, ?_, hc⟩
      rw [List.forall_mem_cons]
      exact ⟨hd, hbefore⟩

theorem flagsSwapped_of_none (h : ∀ d ∈ params, ¬d.id.IsFlags) : FlagsSwapped params := by
  induction params with
  | nil => trivial
  | cons d params ih =>
    rw [List.forall_mem_cons] at h
    rw [FlagsSwapped, if_neg h.1]
    exact ih h.2

theorem flagsSwapped_iff (hbefore : ∀ d ∈ before, ¬d.id.IsFlags) (hc : c.id.IsFlags) :
    FlagsSwapped (before ++ c :: behind) ↔
      c.value.length = 2 ∨ (c.value ++ encode behind)[0]? = (c.value ++ encode behind)[1]? := by
  induction before with
  | nil => rw [List.nil_append, FlagsSwapped, if_pos hc]
  | cons d before ih =>
    rw [List.forall_mem_cons] at hbefore
    rw [List.cons_append, FlagsSwapped, if_neg hbefore.1]
    exact ih hbefore.2

section

variable {r : NFCSTATUS × HalState} (hconfig : r.2.pCmdData.reads 0 [0x20, 0x02] = true)
include hconfig

/-- Without `LF_T3T_FLAGS` the packet is not changed. -/
theorem swapT3tFlags_of_none (hscan : t3tScan r.2.pCmdData r.2.cmdLen 4 = none) :
    HalState.swapT3tFlags r = r := by
  rw [HalState.swapT3tFlags, if_pos hconfig, hscan]

/-- The two bytes behind its length are swapped. -/
theorem swapT3tFlags_of_some (hscan : t3tScan r.2.pCmdData r.2.cmdLen 4 = some i) :
    (HalState.swapT3tFlags r).2.pCmdData =
      r.2.pCmdData.put (i + 2) [r.2.pCmdData (i + 3), r.2.pCmdData (i + 2)] := by
  rw [HalState.swapT3tFlags, if_pos hconfig, hscan]

/-- A well-formed list is changed as it should be when the first `LF_T3T_FLAGS` has length 2, or the
bytes that are swapped are the same. -/
theorem exchanged_iff (hfits : Fits (bytesFrom r.2.pCmdData r.2.cmdLen 4))
    (hparams : bytesFrom r.2.pCmdData r.2.cmdLen 4 = encode params) :
    ((HalState.swapT3tFlags r).2.pCmdData = r.2.pCmdData ∨
      (HalState.swapT3tFlags r).2.pCmdData = r.2.pCmdData.put 4 (encode (swapFirst params))) ↔
      FlagsSwapped params := by
  by_cases hflags : ∃ c ∈ params, c.id.IsFlags
  · -- the walk ends at the first one
    obtain ⟨before, c, behind, rfl, hbefore, hc⟩ := exists_first hflags
    have hscan := t3tScan_flags hparams hbefore hc
    have hreads := reads_behind_length hparams hc
    rw [swapT3tFlags_of_some hconfig hscan, flagsSwapped_iff hbefore hc]
    by_cases hlength : c.value.length = 2
    · rw [put_swapFirst_of_two hparams hbefore hc hlength]
      exact iff_of_true (.inr rfl) (.inl hlength)
    · -- other bytes are swapped than the value of one parameter
      obtain ⟨x, y, rest, hxy⟩ := exists_behind_length hparams hbefore hc hfits
      rw [hxy, Memory.reads, Memory.reads, Bool.and_eq_true, Bool.and_eq_true, beq_iff_eq,
        beq_iff_eq] at hreads
      obtain ⟨hx, hy, -⟩ := hreads
      have hswapped : r.2.pCmdData.put (4 + (encode before).length + 2)
          [r.2.pCmdData (4 + (encode before).length + 3),
            r.2.pCmdData (4 + (encode before).length + 2)] (4 + (encode before).length + 2) = y :=
        (Memory.put_add (j := 0) (by simp)).trans hy
      rw [hxy]
      constructor
      · rintro (hsame | hsame)
        · rw [hsame, hx] at hswapped
          exact .inr (congrArg some hswapped)
        · rw [hsame, put_swapFirst_apply hparams hbefore hc hlength, hx] at hswapped
          exact .inr (congrArg some hswapped)
      · intro hor
        obtain rfl : x = y := Option.some.inj (hor.resolve_left hlength)
        exact .inl (put_swap_eq_self (hx.trans hy.symm))
  · have hnone : ∀ d ∈ params, ¬d.id.IsFlags := fun d hd hflag => hflags ⟨d, hd, hflag⟩
    have hscan : t3tScan r.2.pCmdData r.2.cmdLen 4 = none := by
      have hbytes : bytesFrom r.2.pCmdData r.2.cmdLen 4 = encode params ++ [] := by
        rw [hparams, List.append_nil]
      have hlength : (encode params).length = r.2.cmdLen - 4 := by
        rw [← hparams]
        exact length_bytesFrom
      rw [t3tScan_params hbytes hnone]
      apply t3tScan_of_end
      omega
    rw [swapT3tFlags_of_none hconfig hscan]
    exact iff_of_true (.inl rfl) (flagsSwapped_of_none hnone)

/-- The swap is confined to the packet, and to its parameter, exactly when the bytes fit and the first
`LF_T3T_FLAGS` of a well-formed list has length 2, or two bytes that are the same behind its
length. -/
theorem confined_iff : Confined r ↔ Fits (bytesFrom r.2.pCmdData r.2.cmdLen 4) ∧
    ∀ params, bytesFrom r.2.pCmdData r.2.cmdLen 4 = encode params → FlagsSwapped params := by
  constructor
  · rintro ⟨hinside, hexchanged⟩
    have hfits := inside_iff_fits.1 hinside
    exact ⟨hfits, fun params h => (exchanged_iff hconfig hfits h).1 (hexchanged params h)⟩
  · rintro ⟨hfits, hswapped⟩
    refine ⟨inside_iff_fits.2 hfits, fun params h => ?_⟩
    exact (exchanged_iff hconfig hfits h).2 (hswapped params h)

end

/-- A packet, as it stands in the buffer. -/
def packetIn (data : List UInt8) : NFCSTATUS × HalState :=
  (NFCSTATUS.success,
    { HalState.init with pCmdData := HalState.init.pCmdData.put 0 data, cmdLen := data.length })

/-- A packet with one parameter is confined when it is `LF_T3T_FLAGS` of length 2. -/
theorem confined_flags : Confined (packetIn [0x20, 0x02, 0x05, 0x01, 0x53, 0x02, 0x01, 0x02]) := by
  apply (confined_iff (by decide)).2
  have hbytes : bytesFrom (packetIn [0x20, 0x02, 0x05, 0x01, 0x53, 0x02, 0x01, 0x02]).2.pCmdData 8 4 =
      [0x53, 0x02, 0x01, 0x02] := by decide
  refine ⟨?_, fun params hparams => ?_⟩
  · change Fits (bytesFrom _ 8 4)
    rw [hbytes]
    exact Fits.flags 0x02 0x01 0x02 []
  · change bytesFrom _ 8 4 = _ at hparams
    rw [hbytes] at hparams
    cases params with
    | nil => trivial
    | cons c params =>
      obtain ⟨id, value, hlt⟩ := c
      cases id with
      | short b hb =>
        -- the length byte is that of the value
        have hcons : (0x53 : UInt8) :: 0x02 :: [0x01, 0x02] =
            b :: UInt8.ofNat value.length :: (value ++ encode params) := hparams
        obtain ⟨rfl, htail⟩ := List.cons.inj hcons
        have hlength : (UInt8.ofNat value.length).toNat = value.length :=
          toNat_length ⟨.short 0x53 hb, value, hlt⟩
        have htwo : (0x02 : UInt8).toNat = value.length :=
          (congrArg UInt8.toNat (List.cons.inj htail).1).trans hlength
        have hflags : ParamId.IsFlags (.short 0x53 hb) := rfl
        rw [FlagsSwapped, if_pos hflags]
        exact .inl htwo.symm
      | long b =>
        have hcons : (0x53 : UInt8) :: 0x02 :: [0x01, 0x02] =
            0xA0 :: b :: UInt8.ofNat value.length :: (value ++ encode params) := hparams
        exact absurd (List.cons.inj hcons).1 (by decide)

/-- One without a value is not: the two bytes behind the packet are swapped. -/
theorem not_confined_empty : ¬Confined (packetIn [0x20, 0x02, 0x03, 0x01, 0x53, 0x00]) := by
  rintro ⟨hinside, -⟩
  rw [t3tAccesses_of_flags (by decide) (by decide)] at hinside
  exact absurd (hinside 6 (by simp)) (by decide)

end AliceHal.Pn54x.Hal
