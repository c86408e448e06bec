import Mathlib.Data.List.TakeWhile
import TaxiPipeline.Model.Backends

namespace TaxiPipeline

/-- What `urlparse` finds in a text: the scheme, the network location and the path. -/
structure ParsedUrl where
  scheme : List Char
  netloc : List Char
  path : List Char
  deriving DecidableEq, Repr

/-- The control characters and the space that `urlsplit` takes from the front. -/
def isLeadingControl (c : Char) : Bool := c.toNat ≤ 32

/-- The characters that `urlsplit` takes out of the text wherever they are. -/
def isUnsafeByte (c : Char) : Bool := c = '\t' || c = '\r' || c = '\n'

def isSchemeChar (c : Char) : Bool := c.isAlphanum || c = '+' || c = '-' || c = '.'

def splitScheme (url : List Char) : List Char × List Char :=
  match url.takeWhile (· ≠ ':'), url.dropWhile (· ≠ ':') with
  | first :: letters, _ :: rest =>
    if first.isAlpha && (first :: letters).all isSchemeChar then ((first :: letters).map Char.toLower, rest)
    else ([], url)
  | _, _ => ([], url)

def endsNetloc (c : Char) : Bool := c = '/' || c = '?' || c = '#'

/-- The network location of what follows the scheme, and the rest. -/
def splitNetloc : List Char → List Char × List Char
  | '/' :: '/' :: rest => (rest.takeWhile (!endsNetloc ·), rest.dropWhile (!endsNetloc ·))
  | url => ([], url)

/-- `urlparse`, without its checks of what stands between brackets and of letters outside ASCII. -/
def urlparse (text : String) : Except PyException ParsedUrl :=
  let url := (text.toList.dropWhile isLeadingControl).filter (!isUnsafeByte ·)
  let (scheme, rest) := splitScheme url
  let (netloc, rest) := splitNetloc rest
  if netloc.contains '[' ≠ netloc.contains ']' then .error (valueError "Invalid IPv6 URL")
  else .ok ⟨scheme, netloc, (rest.takeWhile (· ≠ '#')).takeWhile (· ≠ '?')⟩

/-- `_parse_s3_uri`: the bucket and the key. -/
def parseS3Uri (uri : Option String) : Except PyException (String × String) := do
  let parsed ← urlparse (uri.getD "")
  let key := parsed.path.dropWhile (· = '/')
  if parsed.scheme ≠ "s3".toList ∨ parsed.netloc = [] ∨ key = [] then
    .error (storageIntegrityError "invalid S3 storage URI")
  else .ok (String.ofList parsed.netloc, String.ofList key)

/-- The ASCII characters that `urlparse` leaves in a network location. -/
def isBucketChar (c : Char) : Bool :=
  c.toNat < 128 && !(endsNetloc c || c = '[' || c = ']' || isUnsafeByte c)

/-- The characters of keys. -/
def isKeyChar (c : Char) : Bool := isBucketChar c || c = '/'

/-- A name that a URI can hold. The S3 client takes fewer: letters, digits, '.', '-' and '_'. -/
def IsBucketName (bucket : String) : Prop := bucket ≠ "" ∧ bucket.toList.all isBucketChar = true

theorem isKeyChar_plain {c : Char} (isKey : isKeyChar c = true) : isUnsafeByte c = false ∧ c ≠ '#' ∧ c ≠ '?' := by
  have not_key : ∀ other : Char, isKeyChar other = false → c ≠ other := by
    rintro other notKey rfl
    rw [isKey] at notKey
    cases notKey
  refine ⟨?_, not_key _ (by decide), not_key _ (by decide)⟩
  simp only [isUnsafeByte, Bool.or_eq_false_iff, decide_eq_false_iff_not]
  exact ⟨⟨not_key _ (by decide), not_key _ (by decide)⟩, not_key _ (by decide)⟩

theorem splitNetloc_bucket {bucket key : List Char} (named : bucket.all isBucketChar = true) :
    splitNetloc ('/' :: '/' :: (bucket ++ '/' :: key)) = (bucket, '/' :: key) := by
  have inside : ∀ c ∈ bucket, (!endsNetloc c) = true := by
    intro c member
    have isBucket := List.all_eq_true.mp named c member
    have isKey : isKeyChar c = true := by rw [isKeyChar, isBucket, Bool.true_or]
    obtain ⟨-, noFragment, noQuery⟩ := isKeyChar_plain isKey
    have noSlash : c ≠ '/' := by
      rintro rfl
      exact absurd isBucket (by decide)
    simp [endsNetloc, noSlash, noFragment, noQuery]
  rw [splitNetloc, List.takeWhile_append_of_pos inside, List.dropWhile_append_of_pos inside,
    List.takeWhile_cons_of_neg (by decide), List.dropWhile_cons_of_neg (by decide), List.append_nil]

theorem takeWhile_path {path : List Char} (keyChars : path.all isKeyChar = true) :
    (path.takeWhile (· ≠ '#')).takeWhile (· ≠ '?') = path := by
  have plain : ∀ c ∈ path, c ≠ '#' ∧ c ≠ '?' := by
    intro c member
    obtain ⟨-, noFragment, noQuery⟩ := isKeyChar_plain (List.all_eq_true.mp keyChars c member)
    exact ⟨noFragment, noQuery⟩
  have noFragment : path.takeWhile (· ≠ '#') = path :=
    List.takeWhile_eq_self_iff.mpr fun c member => decide_eq_true (plain c member).1
  rw [noFragment]
  exact List.takeWhile_eq_self_iff.mpr fun c member => decide_eq_true (plain c member).2

theorem urlparse_uri {setup : StorageSetup} {key : String} (named : IsBucketName setup.bucket)
    (keyChars : key.toList.all isKeyChar = true) :
    urlparse (setup.uri key) = .ok ⟨"s3".toList, setup.bucket.toList, '/' :: key.toList⟩ := by
  have bucketChars : ∀ c ∈ setup.bucket.toList, isKeyChar c = true := by
    intro c member
    rw [isKeyChar, List.all_eq_true.mp named.2 c member, Bool.true_or]
  have chars : (setup.uri key).toList =
      's' :: '3' :: ':' :: '/' :: '/' :: (setup.bucket.toList ++ '/' :: key.toList) := by
    simp [StorageSetup.uri, String.toList_append]
  have kept : ((setup.uri key).toList.dropWhile isLeadingControl).filter (!isUnsafeByte ·) =
      's' :: '3' :: ':' :: '/' :: '/' :: (setup.bucket.toList ++ '/' :: key.toList) := by
    rw [chars, List.dropWhile_cons_of_neg (by decide), List.filter_eq_self]
    have safe : ∀ c, isKeyChar c = true → (!isUnsafeByte c) = true := fun c isKey => by
      rw [(isKeyChar_plain isKey).1]
      rfl
    intro c member
    simp only [List.mem_cons, List.mem_append] at member
    rcases member with rfl | rfl | rfl | rfl | rfl | inBucket | rfl | inKey
    · decide
    · decide
    · decide
    · decide
    · decide
    · exact safe c (bucketChars c inBucket)
    · decide
    · exact safe c (List.all_eq_true.mp keyChars c inKey)
  have scheme : splitScheme ('s' :: '3' :: ':' :: '/' :: '/' :: (setup.bucket.toList ++ '/' :: key.toList)) =
      ("s3".toList, '/' :: '/' :: (setup.bucket.toList ++ '/' :: key.toList)) := rfl
  have noBracket : ∀ c, isKeyChar c = false → setup.bucket.toList.contains c = false := by
    intro c notKey
    rw [List.contains_eq_mem, decide_eq_false_iff_not]
    intro member
    rw [bucketChars c member] at notKey
    cases notKey
  have pathChars : ('/' :: key.toList).all isKeyChar = true := by
    rw [List.all_cons, keyChars, Bool.and_true]
    decide
  simp only [urlparse, kept, scheme, splitNetloc_bucket named.2, noBracket '[' (by decide), noBracket ']' (by decide),
    takeWhile_path pathChars, ne_eq, not_true_eq_false, if_false]

/-- The URI of a stored object names its bucket and its key. -/
theorem parseS3Uri_uri {setup : StorageSetup} {key : String} (named : IsBucketName setup.bucket)
    (keyChars : key.toList.all isKeyChar = true) (relative : key.toList.head?.any (· ≠ '/') = true) :
    parseS3Uri (some (setup.uri key)) = .ok (setup.bucket, key) := by
  obtain ⟨first, notSlash⟩ : ∃ first, key.toList.head? = some first ∧ first ≠ '/' := by
    simpa [Option.any_eq_true] using relative
  obtain ⟨rest, letters⟩ := List.head?_eq_some_iff.mp notSlash.1
  have stripped : ('/' :: key.toList).dropWhile (· = '/') = key.toList := by
    rw [List.dropWhile_cons_of_pos (by decide), letters,
      List.dropWhile_cons_of_neg (by simpa using notSlash.2)]
  have bucketLetters : setup.bucket.toList ≠ [] := fun empty => named.1 (String.toList_eq_nil_iff.mp empty)
  have keyLetters : key.toList ≠ [] := by
    rw [letters]
    exact List.cons_ne_nil _ _
  rw [parseS3Uri, Option.getD_some, urlparse_uri named keyChars]
  show (if _ then _ else _) = _
  dsimp only
  rw [stripped, if_neg (by simp [bucketLetters, keyLetters]), String.ofList_toList, String.ofList_toList]

end TaxiPipeline
