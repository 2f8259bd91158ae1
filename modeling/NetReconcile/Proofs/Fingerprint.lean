import Mathlib.Algebra.Group.Nat.Defs
import Mathlib.Algebra.Ring.Nat
import Mathlib.Tactic.Ring
import NetReconcile.Session.Auth

/-!
# Fingerprints tell their inputs apart

A fingerprint is the hexadecimal digest (SHA-256 in the program, any digest here) of the
identity fields, each preceded by its byte length in eight big-endian bytes. Everything in
it but the digest is a code: the hexadecimal text gives back the digest's bytes, the
big-endian prefix gives back a length below `2 ^ 64`, and a length-prefixed sequence of
fields can be cut into its fields again. So two inputs with the same fingerprint have the
same fields as soon as the digest has no collision between their messages and every field
is shorter than `2 ^ 64` bytes.
The hashed bytes of a configuration and a credential pair depend on its five identity
fields and on nothing else (`fingerprint_separates_identity_fields`).
-/

namespace NetReconcile

namespace Digest

/-- A byte array's list holds its bytes in order. -/
theorem toList_loop (bs : ByteArray) (i : Nat) (r : List UInt8) :
    ByteArray.toList.loop bs i r = r.reverse ++ bs.data.toList.drop i := by
  induction i, r using ByteArray.toList.loop.induct bs with
  | case1 i r h ih =>
    rw [ByteArray.toList.loop, if_pos h, ih]
    have hi : i < bs.data.toList.length := by simpa using h
    rw [List.drop_eq_getElem_cons hi]
    simp [ByteArray.get!, getElem!_pos bs.data i (by simpa using h)]
  | case2 i r h =>
    rw [ByteArray.toList.loop, if_neg h]
    simp [List.drop_eq_nil_of_le (show bs.data.toList.length ≤ i by simpa using h)]

theorem byteArray_toList (bs : ByteArray) : bs.toList = bs.data.toList := by
  simp [ByteArray.toList, toList_loop]

@[simp] theorem length_toByteArray_toList (s : String) : s.toByteArray.toList.length = s.utf8ByteSize := by
  simp [byteArray_toList, ← String.size_toByteArray]

@[simp] theorem toByteArray_toList_inj {s t : String} : s.toByteArray.toList = t.toByteArray.toList ↔ s = t := by
  refine ⟨fun h => ?_, fun h => h ▸ rfl⟩
  rw [← String.toByteArray_inj, ByteArray.ext_iff, ← Array.toList_inj]
  simpa [byteArray_toList] using h

/-! ## Big-endian numbers -/

/-- The number a list of bytes spells, most significant first. -/
def ofBigEndian : List UInt8 → Nat
  | [] => 0
  | b :: bs => b.toNat * 256 ^ bs.length + ofBigEndian bs

theorem bigEndian_succ (w n : Nat) :
    bigEndian (w + 1) n = (n / 256 ^ w % 256).toUInt8 :: bigEndian w n := by
  simp [bigEndian, List.range_succ, pow_mul]

@[simp] theorem length_bigEndian (w n : Nat) : (bigEndian w n).length = w := by
  simp [bigEndian]

/-- Reading back a number written in `w` bytes gives it modulo `256 ^ w`. -/
theorem ofBigEndian_bigEndian (w n : Nat) : ofBigEndian (bigEndian w n) = n % 256 ^ w := by
  induction w with
  | zero => simp [bigEndian, ofBigEndian, Nat.mod_one]
  | succ w ih =>
    have hbyte : (n / 256 ^ w % 256).toUInt8.toNat = n / 256 ^ w % 256 := by simp
    rw [bigEndian_succ, ofBigEndian, length_bigEndian, ih, hbyte, Nat.mod_pow_succ]
    ring

theorem bigEndian_inj {w n m : Nat} (hn : n < 256 ^ w) (hm : m < 256 ^ w) :
    bigEndian w n = bigEndian w m ↔ n = m := by
  refine ⟨fun h => ?_, fun h => h ▸ rfl⟩
  have := congrArg ofBigEndian h
  rwa [ofBigEndian_bigEndian, ofBigEndian_bigEndian, Nat.mod_eq_of_lt hn, Nat.mod_eq_of_lt hm] at this

/-! ## Hexadecimal text -/

/-- The digit of a number below sixteen, in lowercase. -/
def hexDigit (n : Nat) : Char := if n < 10 then Char.ofNat (48 + n) else Char.ofNat (87 + n)

theorem hexOf_eq (bytes : List UInt8) :
    hexOf bytes = String.ofList (bytes.flatMap fun b => [hexDigit (b.toNat / 16), hexDigit (b.toNat % 16)]) :=
  rfl

theorem hexDigit_inj {n m : Nat} (hn : n < 16) (hm : m < 16) : hexDigit n = hexDigit m ↔ n = m := by
  refine ⟨fun h => ?_, fun h => h ▸ rfl⟩
  have hdigits : ∀ n < 16, ∀ m < 16, hexDigit n = hexDigit m → n = m := by decide
  exact hdigits n hn m hm h

/-- The two digits of a byte give it back. -/
theorem hexDigits_inj {a b : UInt8}
    (h : [hexDigit (a.toNat / 16), hexDigit (a.toNat % 16)] = [hexDigit (b.toNat / 16), hexDigit (b.toNat % 16)]) :
    a = b := by
  have ha := a.toNat_lt
  have hb := b.toNat_lt
  simp only [List.cons.injEq, and_true] at h
  have hhi := (hexDigit_inj (by omega) (by omega)).mp h.1
  have hlo := (hexDigit_inj (by omega) (by omega)).mp h.2
  exact UInt8.toNat_inj.mp (by omega)

theorem hexOf_inj {a b : List UInt8} : hexOf a = hexOf b ↔ a = b := by
  refine ⟨fun h => ?_, fun h => h ▸ rfl⟩
  rw [hexOf_eq, hexOf_eq] at h
  replace h := String.ofList_injective h
  induction a generalizing b with
  | nil => cases b <;> simp_all
  | cons x a ih =>
    cases b with
    | nil => simp at h
    | cons y b =>
      simp only [List.flatMap_cons] at h
      obtain ⟨hxy, hab⟩ := List.append_inj h rfl
      rw [hexDigits_inj hxy, ih hab]

end Digest

namespace Session

open Digest

theorem lengthPrefixed_eq (s : String) :
    lengthPrefixed s = bigEndian 8 s.utf8ByteSize ++ s.toByteArray.toList := by
  simp [lengthPrefixed]

/-- A field read off the front of a length-prefixed sequence, and what follows it. -/
theorem lengthPrefixed_append_inj {x y : String} {xs ys : List UInt8} (hx : x.utf8ByteSize < 2 ^ 64)
    (hy : y.utf8ByteSize < 2 ^ 64) (h : lengthPrefixed x ++ xs = lengthPrefixed y ++ ys) :
    x = y ∧ xs = ys := by
  rw [lengthPrefixed_eq, lengthPrefixed_eq, List.append_assoc, List.append_assoc] at h
  obtain ⟨hlen, hrest⟩ := List.append_inj h (by simp)
  have hsize : x.utf8ByteSize = y.utf8ByteSize := (bigEndian_inj (by simpa using hx) (by simpa using hy)).mp hlen
  obtain ⟨hbytes, htail⟩ := List.append_inj hrest (by simp [hsize])
  exact ⟨toByteArray_toList_inj.mp hbytes, htail⟩

theorem fingerprintMessage_cons (x : String) (xs : List String) :
    fingerprintMessage (x :: xs) = lengthPrefixed x ++ fingerprintMessage xs :=
  List.flatMap_cons

theorem length_lengthPrefixed (s : String) : (lengthPrefixed s).length = 8 + s.utf8ByteSize := by
  simp [lengthPrefixed_eq]

/-- The bytes hashed for a fingerprint give back the fields, each shorter than `2 ^ 64`
bytes. -/
theorem fingerprintMessage_inj {xs ys : List String} (hxs : ∀ f ∈ xs, f.utf8ByteSize < 2 ^ 64)
    (hys : ∀ f ∈ ys, f.utf8ByteSize < 2 ^ 64) : fingerprintMessage xs = fingerprintMessage ys ↔ xs = ys := by
  refine ⟨fun h => ?_, fun h => h ▸ rfl⟩
  induction xs generalizing ys with
  | nil =>
    cases ys with
    | nil => rfl
    | cons y ys =>
      have := congrArg List.length h.symm
      simp [length_lengthPrefixed, fingerprintMessage] at this
  | cons x xs ih =>
    cases ys with
    | nil =>
      have := congrArg List.length h
      simp [length_lengthPrefixed, fingerprintMessage] at this
    | cons y ys =>
      rw [fingerprintMessage_cons, fingerprintMessage_cons] at h
      obtain ⟨hxy, hrest⟩ := lengthPrefixed_append_inj (hxs x (by simp)) (hys y (by simp)) h
      rw [hxy, ih (fun f hf => hxs f (by simp [hf])) (fun f hf => hys f (by simp [hf])) hrest]

/-- The fingerprint of some fields tells them apart from each of a list of others: every
field fits its eight-byte length prefix, and the digest gives no message of the other
fields the digest of theirs unless the messages are the same. -/
def Separates (digest : List UInt8 → List UInt8) (fields : List String) (others : List (List String)) :
    Prop :=
  (∀ fs ∈ fields :: others, ∀ f ∈ fs, f.utf8ByteSize < 2 ^ 64) ∧
    ∀ fs ∈ others, digest (fingerprintMessage fs) = digest (fingerprintMessage fields) →
      fingerprintMessage fs = fingerprintMessage fields

/-- Fields whose fingerprint is told apart from others' are the fields of every other
with the same fingerprint. -/
theorem Separates.eq_of_digest {digest : List UInt8 → List UInt8} {fields fs : List String}
    {others : List (List String)} (h : Separates digest fields others) (hfs : fs ∈ others)
    (hfp : hexOf (digest (fingerprintMessage fs)) = hexOf (digest (fingerprintMessage fields))) :
    fs = fields := by
  have hmsg := h.2 fs hfs (hexOf_inj.mp hfp)
  exact (fingerprintMessage_inj (h.1 fs (by simp [hfs])) (h.1 fields (by simp))).mp hmsg

theorem identityFields_of_make {parseUrl : String → Except Web.UrlError Web.Url} {spec : Config.ConfigSpec}
    {creds : Secrets.Credentials} {opts : AuthOptions} (h : AuthOptions.make parseUrl spec creds = .ok opts) :
    opts.identityFields = identityFields spec creds := by
  unfold AuthOptions.make at h
  dsimp only at h
  split at h
  · cases h
  · cases h
    rfl

/-! ## The identity fields and nothing else -/

open Config Secrets

/-- The bytes hashed for a configuration and a credential pair: its domain, project, region,
access key and secret key, in this order, each preceded by its byte length in eight
big-endian bytes. -/
theorem fingerprintMessage_identityFields (spec : ConfigSpec) (creds : Credentials) :
    fingerprintMessage (identityFields spec creds) =
      [spec.domainName, spec.projectId, spec.region, creds.accessKey, creds.secretKey].flatMap
        fun s => bigEndian 8 s.utf8ByteSize ++ s.toByteArray.toList := by
  unfold fingerprintMessage identityFields
  congr 1
  funext s
  exact lengthPrefixed_eq s

theorem identityFields_eq_iff {spec spec' : ConfigSpec} {creds creds' : Credentials} :
    identityFields spec creds = identityFields spec' creds' ↔
      spec.domainName = spec'.domainName ∧ spec.projectId = spec'.projectId ∧ spec.region = spec'.region ∧
        creds.accessKey = creds'.accessKey ∧ creds.secretKey = creds'.secretKey := by
  simp [identityFields]

/-- The fingerprint frames the identity fields so that they can be read back. The bytes it
hashes are each field preceded by its eight-byte big-endian length, and two configurations
with credential pairs give the same bytes exactly when their domains, projects, regions,
access keys and secret keys are pairwise equal, for every field shorter than `2 ^ 64` bytes;
so no bytes can move across a field boundary unnoticed, and nothing else (the identity
service's address, where the credentials come from) enters. The fingerprint itself, with
any digest, is then the same for equal fields, and different for different fields unless
the digest gives the two messages one value. -/
theorem fingerprint_separates_identity_fields (digest : List UInt8 → List UInt8) (spec spec' : ConfigSpec)
    (creds creds' : Credentials)
    (hlen : ∀ f ∈ identityFields spec creds ++ identityFields spec' creds', f.utf8ByteSize < 2 ^ 64) :
    fingerprintMessage (identityFields spec creds) =
        [spec.domainName, spec.projectId, spec.region, creds.accessKey, creds.secretKey].flatMap
          (fun s => bigEndian 8 s.utf8ByteSize ++ s.toByteArray.toList) ∧
    (fingerprintMessage (identityFields spec creds) = fingerprintMessage (identityFields spec' creds') ↔
      spec.domainName = spec'.domainName ∧ spec.projectId = spec'.projectId ∧ spec.region = spec'.region ∧
        creds.accessKey = creds'.accessKey ∧ creds.secretKey = creds'.secretKey) ∧
    (spec.domainName = spec'.domainName ∧ spec.projectId = spec'.projectId ∧ spec.region = spec'.region ∧
        creds.accessKey = creds'.accessKey ∧ creds.secretKey = creds'.secretKey →
      fingerprint digest spec creds = fingerprint digest spec' creds') ∧
    ((digest (fingerprintMessage (identityFields spec creds)) =
          digest (fingerprintMessage (identityFields spec' creds')) →
        fingerprintMessage (identityFields spec creds) = fingerprintMessage (identityFields spec' creds')) →
      fingerprint digest spec creds = fingerprint digest spec' creds' →
      spec.domainName = spec'.domainName ∧ spec.projectId = spec'.projectId ∧ spec.region = spec'.region ∧
        creds.accessKey = creds'.accessKey ∧ creds.secretKey = creds'.secretKey) := by
  have hmsg : fingerprintMessage (identityFields spec creds) = fingerprintMessage (identityFields spec' creds') ↔
      identityFields spec creds = identityFields spec' creds' :=
    fingerprintMessage_inj (fun f hf => hlen f (List.mem_append_left _ hf))
      (fun f hf => hlen f (List.mem_append_right _ hf))
  rw [← identityFields_eq_iff]
  refine ⟨fingerprintMessage_identityFields spec creds, hmsg, fun h => ?_, fun hsep hfp => ?_⟩
  · unfold fingerprint
    rw [h]
  · have hdigest := hexOf_inj.mp hfp
    exact hmsg.mp (hsep hdigest)

/-- Moving a byte from the access key to the secret key changes the bytes a fingerprint
hashes. -/
theorem fingerprint_separates_moved_boundary :
    let spec : ConfigSpec := ⟨"OTC-EU-DE-0001", "project-a", "eu-de", none, ⟨.secret, some ⟨"ns", "creds", "credentials"⟩⟩⟩
    (∀ f ∈ identityFields spec ⟨"AK|X", "Y"⟩ ++ identityFields spec ⟨"AK", "X|Y"⟩, f.utf8ByteSize < 2 ^ 64) ∧
      fingerprintMessage (identityFields spec ⟨"AK|X", "Y"⟩) ≠ fingerprintMessage (identityFields spec ⟨"AK", "X|Y"⟩) := by
  intro spec
  have hlen : ∀ f ∈ identityFields spec ⟨"AK|X", "Y"⟩ ++ identityFields spec ⟨"AK", "X|Y"⟩,
      f.utf8ByteSize < 2 ^ 64 := by decide
  refine ⟨hlen, fun h => ?_⟩
  have hkeys :=
    ((fingerprint_separates_identity_fields sha256 spec spec ⟨"AK|X", "Y"⟩ ⟨"AK", "X|Y"⟩ hlen).2.1.mp h).2.2.2.1
  exact absurd hkeys (by decide)

end Session

end NetReconcile
