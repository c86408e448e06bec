import Mathlib.Data.Nat.Digits.Defs
import TaxiPipeline.Model.PythonText
import TaxiPipeline.Model.Sources
import TaxiPipeline.Model.Transaction

namespace TaxiPipeline

/-- `hashlib.sha256().hexdigest()`. -/
def hexdigest (digest : Digest) : String := String.ofList (hexDigits 64 digest.toNat)

/-- The format `{n:04d}` or `{n:02d}` of an integer; a sign counts as a digit. -/
def paddedInt (width : Nat) (n : Int) : String :=
  if n < 0 then "-" ++ padded (width - 1) n.natAbs else padded width n.toNat

def s3Key (metadata : SourceFileMetadata) : Except PyException String :=
  let checksum := hexdigest metadata.checksumSha256
  if metadata.datasetName = "taxi_zone_lookup" then
    .ok ("landing/reference/taxi_zones/" ++ checksum ++ ".csv")
  else
    match metadata.serviceType with
    | none => .error (valueError s!"Unsupported S3 dataset: {metadata.datasetName}")
    | some service =>
      if ¬ (service = "yellow" ∨ service = "green") then
        .error (valueError s!"Unsupported S3 dataset: {metadata.datasetName}")
      else
        match metadata.year, metadata.month with
        | some year, some month =>
          .ok ("landing/" ++ service ++ "/" ++ paddedInt 4 year ++ "/" ++ paddedInt 2 month ++ "/" ++
            checksum ++ ".parquet")
        | _, _ => .error (valueError "Monthly S3 sources require year and month")

theorem hexDigits_length (width n : Nat) : (hexDigits width n).length = width := by
  induction width generalizing n with
  | zero => rfl
  | succ width ih => rw [hexDigits, List.length_append, ih, List.length_singleton]

theorem digitChar_injective : ∀ m < 16, ∀ n < 16, Nat.digitChar m = Nat.digitChar n → m = n := by decide

theorem hexDigits_injective {width m n : Nat} (hm : m < 16 ^ width) (hn : n < 16 ^ width)
    (same : hexDigits width m = hexDigits width n) : m = n := by
  induction width generalizing m n with
  | zero =>
    rw [pow_zero] at hm hn
    omega
  | succ width ih =>
    rw [pow_succ] at hm hn
    obtain ⟨high, low⟩ := List.append_inj' same rfl
    have highSame := ih (by omega) (by omega) high
    have lowSame := digitChar_injective _ (Nat.mod_lt m (by decide)) _ (Nat.mod_lt n (by decide))
      (List.singleton_inj.mp low)
    omega

theorem hexdigest_injective {left right : Digest} (same : hexdigest left = hexdigest right) : left = right :=
  BitVec.eq_of_toNat_eq (hexDigits_injective left.isLt right.isLt (String.ofList_inj.mp same))

theorem paddedInt_nonneg {n : Int} (width : Nat) (nonneg : 0 ≤ n) : paddedInt width n = padded width n.toNat := by
  rw [paddedInt, if_neg (by omega)]

/-- The metadata names the partition of a source as the resolvers build it. -/
structure SourceFileMetadata.Describes (metadata : SourceFileMetadata) (source : SourcePartition) : Prop where
  dataset : metadata.datasetName = source.datasetName
  service : metadata.serviceType = source.serviceType
  year : metadata.year = source.year
  month : metadata.month = source.month
  partition : metadata.partitionKey = source.partitionKey
  landing : metadata.landingPath = source.landingPath

/-- The key of a version of a source, by its partition and its checksum. -/
def SourcePartition.versionKey (source : SourcePartition) (checksum : Digest) : String :=
  "landing/" ++ source.partitionKey ++ "/" ++ hexdigest checksum ++ "." ++ source.sourceFormat

theorem s3Key_resolved {metadata : SourceFileMetadata} {source : SourcePartition} (resolved : Resolved source)
    (described : metadata.Describes source) :
    s3Key metadata = .ok (source.versionKey metadata.checksumSha256) := by
  cases resolved with
  | yellow ok | green ok =>
    obtain ⟨yearOk, monthOk, name, service, year, month, format, key⟩ := monthlyTripSource_ok ok
    simp only [s3Key, SourcePartition.versionKey, described.dataset, described.service, described.year,
      described.month, name, service, year, month, format, key]
    rw [if_neg (by decide), if_neg (by decide), paddedInt_nonneg 4 (by omega), paddedInt_nonneg 2 (by omega)]
    simp only [String.append_assoc]
    rfl
  | zones =>
    simp only [s3Key, described.dataset]
    rw [if_pos (by rfl)]
    simp only [SourcePartition.versionKey, String.append_assoc]
    rfl

theorem Resolved.format_of_head {left right : SourcePartition} (hl : Resolved left) (hr : Resolved right)
    (same : left.partitionKey.toList.head? = right.partitionKey.toList.head?) :
    left.sourceFormat = right.sourceFormat := by
  have leftDataset := hl.dataset
  have rightDataset := hr.dataset
  rw [same] at leftDataset
  generalize right.partitionKey.toList.head? = head at leftDataset rightDataset
  simp only [List.mem_cons, Prod.mk.injEq, List.not_mem_nil, or_false] at leftDataset rightDataset
  rcases leftDataset with ⟨rfl, -, formatL⟩ | ⟨rfl, -, formatL⟩ | ⟨rfl, -, formatL⟩ <;>
    simp_all

theorem Resolved.partitionKey_ne_nil {source : SourcePartition} (resolved : Resolved source) :
    source.partitionKey.toList ≠ [] := by
  intro empty
  have dataset := resolved.dataset
  rw [empty] at dataset
  simp at dataset

/-- Different versions of resolved sources have different keys. -/
theorem versionKey_injective {left right : SourcePartition} (hl : Resolved left) (hr : Resolved right)
    {checksum checksum' : Digest} (same : left.versionKey checksum = right.versionKey checksum') :
    left.partitionKey = right.partitionKey ∧ checksum = checksum' := by
  have lists := congrArg String.toList same
  simp only [SourcePartition.versionKey, String.toList_append] at lists
  have heads : left.partitionKey.toList.head? = right.partitionKey.toList.head? := by
    obtain ⟨c, rest, leftKey⟩ := List.exists_cons_of_ne_nil hl.partitionKey_ne_nil
    obtain ⟨c', rest', rightKey⟩ := List.exists_cons_of_ne_nil hr.partitionKey_ne_nil
    rw [leftKey, rightKey] at lists ⊢
    simp only [List.append_assoc, List.append_cancel_left_eq, List.cons_append, List.cons.injEq] at lists
    rw [List.head?_cons, List.head?_cons, lists.1]
  rw [hl.format_of_head hr heads] at lists
  -- the extension is the same on both sides, and every digest has 64 digits
  have digests : ∀ digest : Digest, (hexdigest digest).toList.length = 64 := by
    intro digest
    rw [hexdigest, String.toList_ofList, hexDigits_length]
  have keys := List.append_cancel_right (List.append_cancel_right lists)
  obtain ⟨paths, hex⟩ := List.append_inj' keys ((digests _).trans (digests _).symm)
  exact ⟨String.toList_inj.mp (List.append_cancel_left (List.append_cancel_right paths)),
    hexdigest_injective (String.toList_inj.mp hex)⟩

theorem hexDigits_storable (width n : Nat) : '\x00' ∉ hexDigits width n := by
  have digits : ∀ m < 16, '\x00' ∉ [Nat.digitChar m] := by decide
  induction width generalizing n with
  | zero => exact List.not_mem_nil
  | succ width ih =>
    rw [hexDigits, List.mem_append, not_or]
    exact ⟨ih _, digits _ (Nat.mod_lt n (by decide))⟩

theorem hexdigest_storable (digest : Digest) : storable (hexdigest digest) = true := by
  simp only [storable, hexdigest, String.toList_ofList, List.all_eq_true, bne_iff_ne, ne_eq]
  rintro c member rfl
  exact hexDigits_storable _ _ member

theorem versionKey_storable {source : SourcePartition} (resolved : Resolved source) (checksum : Digest) :
    storable (source.versionKey checksum) = true := by
  have fixed : storable "landing/" = true ∧ storable "/" = true ∧ storable "." = true := by decide
  have texts := resolved.storable
  have format : storable source.sourceFormat = true := by
    have dataset := resolved.dataset
    simp only [List.mem_cons, Prod.mk.injEq, List.not_mem_nil, or_false] at dataset
    rcases dataset with ⟨-, -, is⟩ | ⟨-, -, is⟩ | ⟨-, -, is⟩ <;> rw [is] <;> decide
  simp only [SourcePartition.texts, List.all_append, List.all_cons, Bool.and_eq_true] at texts
  simp only [SourcePartition.versionKey, storable_append, fixed, texts, hexdigest_storable, format, Bool.and_self]

theorem versionKey_landing (source : SourcePartition) (checksum : Digest) :
    "landing/".toList <+: (source.versionKey checksum).toList := by
  simp only [SourcePartition.versionKey, String.toList_append, List.append_assoc]
  exact List.prefix_append ..

end TaxiPipeline
