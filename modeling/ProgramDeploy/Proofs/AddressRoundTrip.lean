import Mathlib.Data.List.TakeWhile
import ProgramDeploy.Bytes.Lemmas
import ProgramDeploy.Proofs.DeploymentStages
import ProgramDeploy.RouterInit

namespace ProgramDeploy

namespace Base58

theorem value?_digit {n : Nat} (h : n < 58) : value? (digit n) = some n := by
  revert n
  decide

theorem digit_ne_one {n : Nat} (h : n < 58) (hn : n ≠ 0) : digit n ≠ '1' := by
  revert n
  decide

theorem number_snoc {cs : List Char} {n d : Nat} (h : number cs = .ok n) (hd : d < 58) :
    number (cs ++ [digit d]) = .ok (58 * n + d) := by
  rw [number, List.foldlM_append]
  unfold number at h
  rw [h]
  simp [bind, Except.bind, value?_digit hd, pure, Except.pure]

theorem number_digits (n : Nat) : number ((digitsOf n).map digit).reverse = .ok n := by
  induction n using digitsOf.induct with
  | case1 =>
    rw [digitsOf, if_pos rfl]
    rfl
  | case2 n hn ih =>
    have hsnoc := number_snoc ih (show n % 58 < 58 by omega)
    have hn' : 58 * (n / 58) + n % 58 = n := by omega
    rw [digitsOf, if_neg hn, List.map_cons, List.reverse_cons, hsnoc, hn']

theorem head?_digits (n : Nat) : ((digitsOf n).map digit).reverse.head? ≠ some '1' := by
  induction n using digitsOf.induct with
  | case1 => simp [digitsOf]
  | case2 n hn ih =>
    rw [digitsOf, if_neg hn, List.map_cons, List.reverse_cons, List.head?_append]
    cases hhead : ((digitsOf (n / 58)).map digit).reverse.head? with
    | some c =>
      rw [hhead] at ih
      exact ih
    | none =>
      -- Nothing stands in front, so the last digit is the whole number.
      have hnil : digitsOf (n / 58) = [] := by simpa using hhead
      have hzero : n / 58 = 0 := by
        by_contra h
        rw [digitsOf, if_neg h] at hnil
        cases hnil
      have hdigit := digit_ne_one (show n % 58 < 58 by omega) (show n % 58 ≠ 0 by omega)
      simpa using hdigit

theorem bytesOf_toNatBE {bs : Bytes} (h : bs.head? ≠ some 0) : bytesOf (Bytes.toNatBE bs) = bs := by
  cases bs with
  | nil => rfl
  | cons b bs =>
    have hb : b ≠ 0 := by simpa using h
    rw [bytesOf, Bytes.widthOf_toNatBE bs hb]
    exact Bytes.ofNatBE_toNatBE (b :: bs)

theorem span_of_head? {α : Type} [DecidableEq α] (k : Nat) {a : α} {xs : List α}
    (h : xs.head? ≠ some a) :
    (List.replicate k a ++ xs).takeWhile (· == a) = List.replicate k a ∧
      (List.replicate k a ++ xs).dropWhile (· == a) = xs := by
  have hall : ∀ x ∈ List.replicate k a, (x == a) = true := by
    intro x hx
    rw [List.eq_of_mem_replicate hx]
    exact beq_self_eq_true a
  rw [List.takeWhile_append_of_pos hall, List.dropWhile_append_of_pos hall]
  cases xs with
  | nil => simp
  | cons x xs =>
    have hx : (x == a) = false := by simpa using h
    simp [hx]

theorem replicate_append_dropWhile {α : Type} [DecidableEq α] (a : α) (xs : List α) :
    List.replicate (xs.takeWhile (· == a)).length a ++ xs.dropWhile (· == a) = xs := by
  have hrun : xs.takeWhile (· == a) = List.replicate (xs.takeWhile (· == a)).length a := by
    refine List.eq_replicate_iff.mpr ⟨rfl, fun x hx => ?_⟩
    simpa using List.mem_takeWhile_imp hx
  rw [← hrun]
  exact List.takeWhile_append_dropWhile

theorem head?_dropWhile_ne {α : Type} [DecidableEq α] (a : α) (xs : List α) :
    (xs.dropWhile (· == a)).head? ≠ some a := by
  intro h
  have hnot := List.head?_dropWhile_not (· == a) xs
  rw [h] at hnot
  simp at hnot

theorem decode_encode (bs : Bytes) : decode (encode bs) = .ok bs := by
  let zeros := bs.takeWhile (· == 0)
  let rest := bs.dropWhile (· == 0)
  have hsplit : List.replicate zeros.length 0 ++ rest = bs := replicate_append_dropWhile 0 bs
  have hrest : rest.head? ≠ some 0 := head?_dropWhile_ne 0 bs
  have hnumber : Bytes.toNatBE bs = Bytes.toNatBE rest := by
    rw [← hsplit, Bytes.toNatBE_zeros]
  obtain ⟨hones, hdigits⟩ := span_of_head? zeros.length (head?_digits (Bytes.toNatBE bs))
  have hencode : encode bs =
      List.replicate zeros.length '1' ++ ((digitsOf (Bytes.toNatBE bs)).map digit).reverse := rfl
  rw [decode, hencode, hones, hdigits, number_digits, hnumber]
  simp only [bind, Except.bind, pure, Except.pure]
  rw [bytesOf_toNatBE hrest, List.length_replicate, hsplit]

theorem mem_alphabet_of_mem_encode {bs : Bytes} {c : Char} (h : c ∈ encode bs) : c ∈ alphabet := by
  have hone : '1' ∈ alphabet := by decide
  have hdigit (n : Nat) : digit n ∈ alphabet := by
    rw [digit, List.getD_eq_getElem?_getD]
    cases hn : alphabet[n]? with
    | none => exact hone
    | some d => exact List.mem_of_getElem? hn
  rcases List.mem_append.mp h with h | h
  · rw [List.eq_of_mem_replicate h]
    exact hone
  · obtain ⟨n, -, rfl⟩ := List.mem_map.mp (List.mem_reverse.mp h)
    exact hdigit n

end Base58

namespace Address

theorem readFormat?_formatBytes {f : Nat} (hf : f ≤ greatestFormat) (bs : Bytes) :
    readFormat? (formatBytes f ++ bs) = some (f, (formatBytes f).length) := by
  have hbound : f ≤ 16383 := hf
  unfold formatBytes
  split
  · have hbyte : (UInt8.ofNat f).toNat = f := by
      rw [UInt8.toNat_ofNat']
      omega
    have hplain : f / 64 % 2 = 0 := by omega
    simp [readFormat?, hbyte, hplain]
  · have hquarter : f % 256 / 4 < 64 := by omega
    have hhigh : f / 256 < 64 := by omega
    have hparts : f % 256 / 4 * 4 + f % 4 + f / 256 * 256 = f := by omega
    have hfirst : (UInt8.ofNat (f % 256 / 4 + 64)).toNat = f % 256 / 4 + 64 := by
      rw [UInt8.toNat_ofNat']
      omega
    have hsecond : (UInt8.ofNat (f / 256 + f % 4 * 64)).toNat = f / 256 + f % 4 * 64 := by
      rw [UInt8.toNat_ofNat']
      omega
    have hmark : (f % 256 / 4 + 64) / 64 % 2 = 1 := by
      rw [Nat.add_div_right _ (by decide), Nat.div_eq_of_lt hquarter]
    have hformat : (f % 256 / 4 + 64) % 64 * 4 + (f / 256 + f % 4 * 64) / 64 +
        (f / 256 + f % 4 * 64) % 64 * 256 = f := by
      rw [Nat.add_mod_right, Nat.mod_eq_of_lt hquarter, Nat.add_mul_div_right _ _ (by decide),
        Nat.div_eq_of_lt hhigh, Nat.add_mul_mod_self_right, Nat.mod_eq_of_lt hhigh]
      omega
    simp only [readFormat?, List.cons_append, List.nil_append, hfirst, hsecond, hmark, hformat]
    rfl

theorem checksumLength?_of_key (f : Nat) :
    checksumLength? (formatBytes f).length ((formatBytes f).length + 34) = some 2 := by
  unfold formatBytes
  split <;> rfl

theorem keyOfBytes_encoded {key : Bytes} {f : Nat} (hkey : key.length = 32) (hf : f ≤ greatestFormat)
    (hreserved : isReserved f = false) :
    keyOfBytes (formatBytes f ++ key ++ (checksum (formatBytes f ++ key)).take 2) = .ok key := by
  let body := formatBytes f ++ key
  let mark := (checksum body).take 2
  have hchecksum : (checksum body).length = 64 := Hash.Blake2b.length_digest 64 _ (by decide)
  have hmark : mark.length = 2 := by simp [mark, hchecksum]
  have hlength : (body ++ mark).length = (formatBytes f).length + 34 := by
    simp only [List.length_append, hmark, body, hkey]
  have hsize : (body ++ mark).length - 2 = body.length := by
    rw [List.length_append, hmark]
    rfl
  have hformat : readFormat? (body ++ mark) = some (f, (formatBytes f).length) := by
    rw [List.append_assoc]
    exact readFormat?_formatBytes hf _
  have hkey' : body.drop (formatBytes f).length = key := List.drop_left
  show keyOfBytes (body ++ mark) = _
  simp only [keyOfBytes, hformat, hreserved, Bool.false_eq_true, if_false]
  rw [hlength, checksumLength?_of_key, ← hlength]
  simp only [hsize, List.take_left, List.drop_left, hkey']
  exact if_pos rfl

theorem class_of_mem_alphabet {c : Char} (h : c ∈ Base58.alphabet) :
    c.toNat < 128 ∧ Text.blank c = false ∧ c ≠ '0' := by
  have hall : (Base58.alphabet.all fun c => c.toNat < 128 ∧ Text.blank c = false ∧ c ≠ '0') = true := by decide
  simpa using List.all_eq_true.mp hall c h

theorem trimRight_of_forall {p : Text.Class} {cs : List Char} (h : ∀ c ∈ cs, p c = false) :
    Text.trimRight p cs = cs := by
  have hreverse : cs.reverse.dropWhile p = cs.reverse := by
    cases hcs : cs.reverse with
    | nil => rfl
    | cons c ds =>
      have hc : c ∈ cs := by
        rw [← List.mem_reverse, hcs]
        exact List.mem_cons_self
      simp [h c hc]
  rw [Text.trimRight, hreverse, List.reverse_reverse]

theorem decode_encode {key : Bytes} {f : Nat} (hkey : key.length = 32) (hf : f ≤ greatestFormat)
    (hreserved : isReserved f = false) : decode (encode key f) = .ok key := by
  let bs := formatBytes f ++ key ++ (checksum (formatBytes f ++ key)).take 2
  have hchars : (encode key f).toList = Base58.encode bs := String.toList_ofList
  have htrim : Text.trimRight Text.blank (Base58.encode bs) = Base58.encode bs :=
    trimRight_of_forall fun c hc =>
      (class_of_mem_alphabet (Base58.mem_alphabet_of_mem_encode hc)).2.1
  have hascii : (Base58.encode bs).all (·.toNat < 128) = true :=
    List.all_eq_true.mpr fun c hc => decide_eq_true
      (class_of_mem_alphabet (Base58.mem_alphabet_of_mem_encode hc)).1
  have hbytes : bytesOfText (encode key f) = .ok bs := by
    simp only [bytesOfText, hchars, htrim, hascii, if_true, Base58.decode_encode]
    rfl
  rw [decode, hbytes]
  exact keyOfBytes_encoded hkey hf hreserved

end Address

namespace ActorId

theorem decode_address {key : Bytes} {f : Nat} (hkey : key.length = 32)
    (hf : f ≤ Address.greatestFormat) (hreserved : Address.isReserved f = false) :
    decode (.text (Address.encode key f)) = .ok key := by
  have hread := Address.decode_encode hkey hf hreserved
  have hdigits : ∀ c ∈ (Address.encode key f).toList, c ∈ Base58.alphabet := by
    intro c hc
    rw [Address.encode, String.toList_ofList] at hc
    exact Base58.mem_alphabet_of_mem_encode hc
  -- There is no zero among the digits of an address, so none is taken for a marked text.
  have hunmarked : Hex.markedDigits? (Address.encode key f).toList = none := by
    unfold Hex.markedDigits?
    split
    · rename_i cs hcs
      have hzero := Address.class_of_mem_alphabet (hdigits '0' (by rw [hcs]; exact List.mem_cons_self))
      exact absurd rfl hzero.2.2
    · rfl
  have htruthy : (Value.text (Address.encode key f)).isTruthy = true := by
    cases hempty : (Address.encode key f).isEmpty with
    | false => simp [Value.isTruthy, hempty]
    | true =>
      -- An empty text has no room for a format.
      rw [String.isEmpty_iff.mp hempty] at hread
      cases hread
  have hbytes : bytesOfText (Address.encode key f) = .ok key := by
    rw [bytesOfText, hunmarked, hread]
    rfl
  simp [decode, source, htruthy, bind, Except.bind, hbytes, hkey, size, pure, Except.pure]

theorem decode_marked {key : Bytes} (hkey : key.length = 32) :
    decode (.text (Hex.marked key)) = .ok key := by
  have htruthy : (Value.text (Hex.marked key)).isTruthy = true := by
    simp [Value.isTruthy, Hex.marked, Hex.encode]
  have hbytes : bytesOfText (Hex.marked key) = .ok key := by
    unfold bytesOfText
    rw [Hex.markedDigits?_marked]
    dsimp only
    rw [Hex.read_digits]
    rfl
  simp [decode, source, htruthy, bind, Except.bind, hbytes, hkey, size, pure, Except.pure]

end ActorId

namespace Account

theorem eq_of_ofPublicKey {key : Bytes} {f : Nat} {a : Account} (h : ofPublicKey key (.int f) = .ok a) :
    a = ⟨key, Address.encode key f, .int f⟩ := by
  obtain ⟨n, hn, h⟩ := bind_eq_ok_iff.mp h
  have hformat : n = f := by
    simp only [formatNumber, Value.toInt?] at hn
    split at hn
    · cases hn
    · exact (Except.ok.inj hn).symm
  rw [← Except.ok.inj h, hformat]

theorem exists_secret_of_ofSeed {seed name format : Value} {a : Account}
    (h : ofSeed seed name format = .ok a) : ∃ s : Secret, ofPublicKey s.publicKey format = .ok a := by
  obtain ⟨bs, -, h⟩ := bind_eq_ok_iff.mp h
  split at h
  · exact ⟨_, h⟩
  · obtain ⟨_, -, h⟩ := bind_eq_ok_iff.mp h
    cases h

theorem exists_secret_of_ofMnemonic {mnemonic name format : Value} {a : Account}
    (h : ofMnemonic mnemonic name format = .ok a) : ∃ s : Secret, ofPublicKey s.publicKey format = .ok a := by
  obtain ⟨words, -, h⟩ := bind_eq_ok_iff.mp h
  split at h
  · simp only [bind_eq_ok_iff] at h
    obtain ⟨_, -, _, h, -⟩ := h
    cases h
  · obtain ⟨entropy, -, h⟩ := bind_eq_ok_iff.mp h
    exact ⟨_, h⟩

theorem exists_secret_of_ofPath {entropy : Except Phrase.Fault Bytes}
    {junctions : Except Fault (List Junction)} {format : Value} {a : Account}
    (h : ofPath entropy junctions format = .ok a) :
    ∃ s : Secret, ofPublicKey s.publicKey format = .ok a := by
  simp only [ofPath, bind_eq_ok_iff] at h
  obtain ⟨_, -, _, -, _, -, leaf, -, h⟩ := h
  exact ⟨leaf, h⟩

theorem exists_secret_of_ofGivenUri {suri format : Value} {a : Account}
    (h : ofGivenUri suri format = .ok a) : ∃ s : Secret, ofPublicKey s.publicKey format = .ok a := by
  unfold ofGivenUri at h
  split at h
  · split at h
    · cases h
    · unfold ofParsedUri at h
      split at h
      · cases h
      · exact exists_secret_of_ofPath h
  · split at h
    · cases h
    · unfold ofTornUri at h
      split at h
      · cases h
      · split at h
        · cases h
        · exact exists_secret_of_ofPath h
  all_goals cases h

theorem exists_secret_of_ofUri {suri name format : Value} {a : Account}
    (h : ofUri suri name format = .ok a) : ∃ s : Secret, ofPublicKey s.publicKey format = .ok a := by
  unfold ofUri at h
  split at h
  · simp only [bind_eq_ok_iff] at h
    obtain ⟨_, -, _, h, -⟩ := h
    cases h
  · exact exists_secret_of_ofGivenUri h

inductive Spelling (a : Account) : String → Prop where
  | address : Spelling a a.address
  | marked : Spelling a (Hex.marked a.publicKey)

end Account

inductive Wallet.Makes (format : Value) (a : Account) : Prop where
  | seed {seed name : Value} {w : World} {n : Nat}
      (made : ((fromSeed seed name format).run w n).result = .ok a) : Makes format a
  | mnemonic {mnemonic name : Value} {w : World} {n : Nat}
      (made : ((fromMnemonic mnemonic name format).run w n).result = .ok a) : Makes format a
  | uri {suri name : Value} {w : World} {n : Nat}
      (made : ((fromUri suri name format).run w n).result = .ok a) : Makes format a

namespace Wallet

theorem made_of_report {made : Except Fault Account} {name : Value} {w : World} {n : Nat} {a : Account}
    (h : ((report made name).run w n).result = .ok a) : made = .ok a := by
  rw [run_report] at h
  cases made with
  | error f => cases h
  | ok b =>
    cases hname : name.shown with
    | error f => simp [hname] at h
    | ok s => simpa [hname] using h

theorem Makes.exists_secret {format : Value} {a : Account} (h : Makes format a) :
    ∃ s : Secret, Account.ofPublicKey s.publicKey format = .ok a := by
  cases h with
  | seed made => exact Account.exists_secret_of_ofSeed (made_of_report made)
  | mnemonic made => exact Account.exists_secret_of_ofMnemonic (made_of_report made)
  | uri made => exact Account.exists_secret_of_ofUri (made_of_report made)

theorem Makes.account {f : Nat} {a : Account} (h : Makes (.int f) a) :
    a.publicKey.length = 32 ∧ a.address = Address.encode a.publicKey f := by
  obtain ⟨s, hs⟩ := h.exists_secret
  rw [Account.eq_of_ofPublicKey hs]
  exact ⟨s.length_publicKey, rfl⟩

theorem Makes.decode_spelling {f : Nat} {a : Account} (h : Makes (.int f) a)
    (hf : f ≤ Address.greatestFormat) (hreserved : Address.isReserved f = false) {s : String}
    (hs : a.Spelling s) : ActorId.decode (.text s) = .ok a.publicKey := by
  obtain ⟨hlength, haddress⟩ := h.account
  cases hs with
  | address =>
    rw [haddress]
    exact ActorId.decode_address hlength hf hreserved
  | marked => exact ActorId.decode_marked hlength

end Wallet

/-- An address in any format is read back as its key, as the key in hexadecimal is, and so a router is
initialised alike by both spellings of its two actors. -/
theorem Wallet.made_accounts_are_read_back {f g : Nat} {a b : Account} (ha : Makes (.int f) a)
    (hb : Makes (.int g) b) (hf : f ≤ 16383) (hg : g ≤ 16383) (hf' : f ≠ 46 ∧ f ≠ 47)
    (hg' : g ≠ 46 ∧ g ≠ 47) :
    ActorId.decode (.text a.address) = .ok a.publicKey ∧
      ActorId.decode (.text (Hex.marked a.publicKey)) = .ok a.publicKey ∧
      (∀ key : Bytes, key.length = 32 →
        ActorId.decode (.text (Address.encode key f)) = .ok key ∧
          ActorId.decode (.text (Address.encode key g)) = .ok key ∧
          ActorId.decode (.text (Hex.marked key)) = .ok key) ∧
      ∀ factory wvara, a.Spelling factory → b.Spelling wvara → ∀ w n,
        (RouterInit.encode (.text factory) (.text wvara)).run w n =
          ⟨.ok (a.publicKey ++ b.publicKey),
            [.log .debug ("Router init payload: " ++ Hex.marked (a.publicKey ++ b.publicKey))], n⟩ := by
  have hreserved : Address.isReserved f = false := by simp [Address.isReserved, hf']
  have hreserved' : Address.isReserved g = false := by simp [Address.isReserved, hg']
  refine ⟨ha.decode_spelling hf hreserved .address, ha.decode_spelling hf hreserved .marked, ?_, ?_⟩
  · intro key hkey
    exact ⟨ActorId.decode_address hkey hf hreserved, ActorId.decode_address hkey hg hreserved',
      ActorId.decode_marked hkey⟩
  · intro factory wvara hfactory hwvara w n
    have hpayload : RouterInit.payload (.text factory) (.text wvara) =
        .ok (a.publicKey ++ b.publicKey) := by
      rw [RouterInit.payload, ha.decode_spelling hf hreserved hfactory,
        hb.decode_spelling hg hreserved' hwvara]
      rfl
    rw [RouterInit.encode, Action.run_bind_liftM, hpayload]
    rfl

theorem Wallet.made_accounts_are_read_back_of_seed :
    ∃ a b, Makes (.int 137) a ∧ Makes (.int 42) b ∧
      ActorId.decode (.text a.address) = .ok a.publicKey ∧
      ActorId.decode (.text b.address) = .ok b.publicKey ∧
      ∀ w n, ((RouterInit.encode (.text a.address) (.text (Hex.marked b.publicKey))).run w n).result =
        .ok (a.publicKey ++ b.publicKey) := by
  let seed : Bytes := List.replicate 32 1
  have hmakes (f : Nat) (hf : Account.formatNumber (.int f) = .ok f) : ∃ a, Makes (.int f) a := by
    have hlength : seed.length = Secret.size := rfl
    obtain ⟨a, ha⟩ := Account.exists_ofSeed (.text "Anme") hlength hf
    have hmade : ((fromSeed (.text (Hex.marked seed)) (.text "Anme") (.int f)).run
        ⟨.empty, .empty, [], []⟩ 0).result = .ok a := by
      rw [fromSeed, run_report, ha]
      rfl
    exact ⟨a, .seed hmade⟩
  obtain ⟨a, ha⟩ := hmakes 137 rfl
  obtain ⟨b, hb⟩ := hmakes 42 rfl
  obtain ⟨hread, -, -, hrouter⟩ :=
    made_accounts_are_read_back ha hb (by decide) (by decide) (by decide) (by decide)
  obtain ⟨hread', -⟩ :=
    made_accounts_are_read_back hb ha (by decide) (by decide) (by decide) (by decide)
  refine ⟨a, b, ha, hb, hread, hread', fun w n => ?_⟩
  rw [hrouter _ _ .address .marked w n]

end ProgramDeploy
