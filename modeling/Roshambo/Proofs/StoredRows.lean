import Mathlib.Data.List.Nodup
import Mathlib.Data.Set.List
import Roshambo.Node.Database
import Roshambo.Proofs.Accounts
import Roshambo.Proofs.Timestamps

namespace Roshambo

lemma Text.bytes_ofList {cs : List Char} (h : ∀ c ∈ cs, c.toNat ≤ 127) :
    Text.bytes (String.ofList cs) = cs.map Char.toUInt8 := by
  have hencode : Text.bytes (String.ofList cs) = cs.flatMap String.utf8EncodeChar := by
    simp [bytes, String.toUTF8_eq_toByteArray, List.utf8Encode]
  rw [hencode]
  clear hencode
  induction cs with
  | nil => rfl
  | cons c cs ih =>
    obtain ⟨hc, hcs⟩ := List.forall_mem_cons.mp h
    have hsize : c.utf8Size = 1 := Char.utf8Size_eq_one_iff.mpr (UInt32.le_iff_toNat_le.mpr hc)
    rw [List.flatMap_cons, String.utf8EncodeChar_eq_singleton hsize, ih hcs]
    rfl

namespace Hex

lemma digitChar_le : ∀ n < 16, (Nat.digitChar n).toNat ≤ 127 := by decide

lemma nibble?_digitChar : ∀ n < 16, nibble? (Nat.digitChar n).toUInt8 = some n := by decide

lemma nibble_digitChar {n : Nat} (h : n < 16) (position : Nat) : nibble (Nat.digitChar n).toUInt8 position = .ok n := by
  rw [nibble, nibble?_digitChar n h]

lemma ascii_of_mem_pairs {bs : List UInt8} {c : Char} (h : c ∈ bs.flatMap pair) : c.toNat ≤ 127 := by
  obtain ⟨b, -, hc⟩ := List.mem_flatMap.mp h
  have hb := b.toNat_lt
  rw [pair, List.mem_cons, List.mem_singleton] at hc
  rcases hc with rfl | rfl
  · exact digitChar_le _ (by omega)
  · exact digitChar_le _ (by omega)

lemma length_pairs (bs : List UInt8) : (bs.flatMap pair).length = 2 * bs.length := by
  induction bs with
  | nil => rfl
  | cons b bs ih =>
    have hpair : (pair b).length = 2 := rfl
    rw [List.flatMap_cons, List.length_append, ih, List.length_cons, hpair]
    omega

lemma decodeFrom_pairs (bs : List UInt8) (position : Nat) :
    decodeFrom position ((bs.flatMap pair).map Char.toUInt8) = .ok bs := by
  induction bs generalizing position with
  | nil => rfl
  | cons b bs ih =>
    have hb := b.toNat_lt
    have hhigh : b.toNat / 16 < 16 := by omega
    have hlow : b.toNat % 16 < 16 := by omega
    rw [List.flatMap_cons, pair, List.map_append, List.map_cons, List.map_cons, List.map_nil, List.cons_append,
      List.cons_append, List.nil_append, decodeFrom, nibble_digitChar hhigh, nibble_digitChar hlow]
    simp only [ok_bind, ih, Nat.div_add_mod, UInt8.ofNat_toNat]
    rfl

lemma decode_encode (bs : List UInt8) : decode (encode bs) = .ok bs := by
  have heven : ¬ (bs.flatMap pair).length % 2 = 1 := by
    rw [length_pairs]
    omega
  rw [encode, decode, Text.bytes_ofList fun c hc => ascii_of_mem_pairs hc]
  simp only [List.length_map, if_neg heven, decodeFrom_pairs]

end Hex

namespace Address

lemma ofHex_hex (a : Address) : ofHex a.hex = .ok a := by
  rw [ofHex, hex, Hex.decode_encode]

lemma hex_injective {a b : Address} (h : a.hex = b.hex) : a = b := by
  have hread := ofHex_hex a
  rw [h, ofHex_hex] at hread
  exact (Except.ok.inj hread).symm

end Address

namespace Instant

variable {t : Instant}

def IsWhole (t : Instant) : Prop := t.nanos < nanosPerSecond ∧ t.nanos % 1000000 = 0

instance (t : Instant) : Decidable t.IsWhole := inferInstanceAs (Decidable (_ ∧ _))

lemma isWhole_epoch : epoch.IsWhole := by decide

lemma ofMillis?_millis (h : t.nanos < nanosPerSecond) :
    ∃ r, ofMillis? t.millis = some r ∧ r.seconds = t.seconds ∧ r.nanos = t.nanos / 1000000 * 1000000 := by
  obtain ⟨seconds, nanos, inRange, _⟩ := t
  simp only [nanosPerSecond] at h
  have hseconds : (1000 * seconds + (nanos / 1000000 : Nat)) / 1000 = seconds := by omega
  have hnanos : ((1000 * seconds + (nanos / 1000000 : Nat)) % 1000).toNat * 1000000 = nanos / 1000000 * 1000000 := by
    omega
  have hfit : nanos / 1000000 * 1000000 < nanosPerSecond := by
    simp only [nanosPerSecond]
    omega
  rw [ofMillis?, millis, hseconds, hnanos, make?, dif_pos inRange, dif_pos (Or.inl hfit)]
  exact ⟨_, rfl, rfl, rfl⟩

lemma ofMillis?_whole (h : t.IsWhole) : ofMillis? t.millis = some t := by
  obtain ⟨r, hr, hseconds, hnanos⟩ := ofMillis?_millis h.1
  have hwhole := h.2
  have hnanos' : r.nanos = t.nanos := by omega
  rw [hr]
  cases r
  cases t
  congr

lemma toInt_millis (t : Instant) : (Int64.ofInt t.millis).toInt = t.millis := by
  obtain ⟨hlow, hhigh⟩ := t.inRange
  have hnanos : t.nanos < 2 * nanosPerSecond := by
    rcases t.nanosFit with h | h
    · omega
    · exact h.1
  simp only [nanosPerSecond] at hnanos
  refine Int64.toInt_ofInt_of_le ?_ ?_ <;> rw [millis] <;> omega

end Instant

structure Accounts.Grows (accounts after : Accounts) : Prop where
  owner : after.owner = accounts.owner
  listed : ∀ address, (accounts.balances.get? address).isSome → (after.balances.get? address).isSome

namespace Database

variable {db : Database} {rows : SortedMap String Int64} {balances : SortedMap Address Amount}

lemma rowAmount_amountRow (a : Amount) : rowAmount (amountRow a) = a := by
  rw [rowAmount, amountRow, UInt64.toUInt64_toInt64]

lemma amountRow_injective {a b : Amount} (h : amountRow a = amountRow b) : a = b := by
  rw [← rowAmount_amountRow a, h, rowAmount_amountRow]

lemma loadClock_saveClock (db : Database) {block : Block} {time : Instant}
    (h : Instant.ofMillis? block.time.millis = some time) :
    (db.saveClock block).loadClock = .ok (some ⟨block.height, time⟩) := by
  simp only [loadClock, saveClock, clockRow, Instant.toInt_millis, h, UInt64.toUInt64_toInt64]

def ShowsBalances (rows : SortedMap String Int64) (balances : SortedMap Address Amount) : Prop :=
  ∀ text row, rows.get? text = some row ↔
    ∃ address amount, balances.get? address = some amount ∧ address.hex = text ∧ amountRow amount = row

namespace ShowsBalances

lemma empty : ShowsBalances ∅ ∅ := by
  intro text row
  simp

lemma get?_hex (h : ShowsBalances rows balances) {address : Address} {amount : Amount} :
    rows.get? address.hex = some (amountRow amount) ↔ balances.get? address = some amount := by
  rw [h]
  constructor
  · rintro ⟨a, v, hv, ha, hrow⟩
    rwa [Address.hex_injective ha, amountRow_injective hrow] at hv
  · intro hv
    exact ⟨address, amount, hv, rfl, rfl⟩

lemma update (h : ShowsBalances rows balances) (after : SortedMap Address Amount) :
    ShowsBalances (after.entries.foldl (fun rows e => rows.insert e.1.hex (amountRow e.2)) rows)
      (balances.update after) := by
  intro text row
  have hnodup : (after.entries.map fun e => e.1.hex).Nodup := by
    have hkeys := after.keys_nodup.map fun _ _ => Address.hex_injective
    rwa [SortedMap.keys, List.map_map] at hkeys
  rw [SortedMap.get?_foldl_insert hnodup]
  constructor
  · rintro (⟨⟨address, amount⟩, he, htext, hrow⟩ | ⟨hout, hrow⟩)
    · have hamount : after.get? address = some amount := SortedMap.get?_eq_some_iff.mpr he
      exact ⟨address, amount, by rw [SortedMap.get?_update, hamount, Option.some_or], htext, hrow⟩
    · obtain ⟨address, amount, hamount, rfl, heq⟩ := (h text row).mp hrow
      have hnone : after.get? address = none := by
        by_contra hsome
        obtain ⟨v, hv⟩ := Option.ne_none_iff_exists'.mp hsome
        exact hout (List.mem_map.mpr ⟨(address, v), SortedMap.get?_eq_some_iff.mp hv, rfl⟩)
      exact ⟨address, amount, by rw [SortedMap.get?_update, hnone, Option.none_or, hamount], rfl, heq⟩
  · rintro ⟨address, amount, hamount, rfl, hrow⟩
    rw [SortedMap.get?_update, Option.or_eq_some_iff] at hamount
    rcases hamount with hamount | ⟨hnone, hamount⟩
    · exact Or.inl ⟨(address, amount), SortedMap.get?_eq_some_iff.mp hamount, rfl, hrow⟩
    · refine Or.inr ⟨fun hmem => ?_, (h _ row).mpr ⟨address, amount, hamount, rfl, hrow⟩⟩
      obtain ⟨⟨other, v⟩, he, htext⟩ := List.mem_map.mp hmem
      obtain rfl := Address.hex_injective htext
      cases hnone.symm.trans (SortedMap.get?_eq_some_iff.mpr he)

lemma save (h : ShowsBalances rows balances) {after : SortedMap Address Amount}
    (listed : ∀ address, (balances.get? address).isSome → (after.get? address).isSome) :
    ShowsBalances (after.entries.foldl (fun rows e => rows.insert e.1.hex (amountRow e.2)) rows) after := by
  have hupdate := h.update after
  rwa [SortedMap.update_of_listed listed] at hupdate

end ShowsBalances

lemma foldlM_loadBalance (es : List (Address × Amount)) (balances : SortedMap Address Amount) :
    (es.map fun e => (e.1.hex, amountRow e.2)).foldlM loadBalance balances =
      .ok (es.foldl (fun m e => m.insert e.1 e.2) balances) := by
  induction es generalizing balances with
  | nil => rfl
  | cons e es ih =>
    rw [List.map_cons, List.foldlM_cons, loadBalance]
    simp only [Address.ofHex_hex, ok_bind, rowAmount_amountRow]
    exact ih _

lemma loadBalances_eq_ok (h : ShowsBalances rows balances) : rows.entries.foldlM loadBalance ∅ = .ok balances := by
  have hrows : rows.entries ∈ Set.range (List.map fun e : Address × Amount => (e.1.hex, amountRow e.2)) := by
    rw [Set.range_list_map]
    rintro ⟨text, row⟩ he
    obtain ⟨address, amount, _, rfl, rfl⟩ := (h text row).mp (SortedMap.get?_eq_some_iff.mpr he)
    exact ⟨(address, amount), rfl⟩
  obtain ⟨es, hes⟩ := hrows
  have hkeys : (es.map (·.1)).Nodup := by
    have hnodup := rows.keys_nodup
    rw [SortedMap.keys, ← hes, List.map_map] at hnodup
    refine List.Nodup.of_map Address.hex ?_
    rwa [List.map_map]
  rw [← hes, foldlM_loadBalance]
  refine congrArg Except.ok (SortedMap.ext_get? fun address => Option.ext fun amount => ?_)
  rw [SortedMap.get?_foldl_insert hkeys, ← h.get?_hex, SortedMap.get?_eq_some_iff (m := rows), ← hes]
  constructor
  · rintro (⟨e, he, rfl, rfl⟩ | ⟨_, hnone⟩)
    · exact List.mem_map_of_mem he
    · cases hnone
  · intro hmem
    obtain ⟨e, he, heq⟩ := List.mem_map.mp hmem
    obtain ⟨htext, hrow⟩ := Prod.mk.inj heq
    exact Or.inl ⟨e, he, Address.hex_injective htext, amountRow_injective hrow⟩

structure Shows (db : Database) (accounts : Accounts) : Prop where
  balances : ShowsBalances db.accounts accounts.balances
  pool : ((db.pools.get? accounts.owner).map rowAmount).getD .zero = accounts.pool

namespace Shows

variable {accounts after : Accounts}

lemma loadAccounts (h : db.Shows accounts) : db.loadAccounts accounts.owner = .ok accounts := by
  rw [Database.loadAccounts, loadBalances_eq_ok h.balances, h.pool]
  rfl

lemma saveAccounts (h : db.Shows accounts) (grows : accounts.Grows after) : (db.saveAccounts after).Shows after where
  balances := h.balances.save grows.listed
  pool := by
    simp only [Database.saveAccounts, SortedMap.get?_insert, if_true, Option.map_some, Option.getD_some,
      rowAmount_amountRow]

end Shows

end Database

end Roshambo
