import Nexplane.DriftSurfaces
import Nexplane.Lib.Codecs
import Nexplane.Lib.LossyUtf8

set_option autoImplicit false

/-! The reference scan of a host: files are searched line by line for terms, and the hits are written
as one JSON line into a pipe that is read afterwards. -/

namespace Nexplane
open Text Lines Codecs LossyUtf8

/-- A Go string: its characters, and `none` for each byte that is in no character. -/
abbrev Runes := List (Option Char)

/-- A hit in the surface `host_file`, with a snippet of type `τ`. -/
structure Hit (τ : Type) where
  location : List Char
  matchedTerm : List Char
  snippet : τ
  stableId : List Char
  hostname : List Char
  fileType : List Char
  deriving DecidableEq

structure ScanOutput (τ : Type) where
  hits : List (Hit τ)
  scanned : Nat
  matched : Nat
  deriving DecidableEq

section Json

/-- `appendString` without HTML escapes. -/
def escapeRune : Option Char → List Char
  | none => "\\ufffd".toList
  | some c =>
    if c = '\\' ∨ c = '"' then ['\\',c]
    else if c.toNat = 8 then ['\\','b']
    else if c.toNat = 12 then ['\\','f']
    else if c = '\n' then ['\\','n']
    else if c = '\r' then ['\\','r']
    else if c = '\t' then ['\\','t']
    else if c.toNat < 32 then
      ['\\','u','0','0',Nat.digitChar (c.toNat / 16),Nat.digitChar (c.toNat % 16)]
    else if c.toNat = 0x2028 ∨ c.toNat = 0x2029 then
      ['\\','u','2','0','2',Nat.digitChar (c.toNat % 16)]
    else [c]

def hexValue (c : Char) : Option Nat :=
  let i := "0123456789abcdef".toList.idxOf c
  if i < 16 then some i else none

def shortEscapes : List (Char × Char) :=
  [('"','"'),('\\','\\'),('/','/'),('b',Char.ofNat 8),('f',Char.ofNat 12),('n','\n'),('r','\r'),
    ('t','\t')]

/-- A character of a JSON string. Surrogates, of which the encoder writes none, are not read. -/
def readRune : List Char → Option (Char × List Char)
  | '\\' :: 'u' :: a :: b :: c :: d :: rest => do
    let n := 4096 * (← hexValue a) + 256 * (← hexValue b) + 16 * (← hexValue c) + (← hexValue d)
    if 0xD800 ≤ n ∧ n ≤ 0xDFFF then none else some (Char.ofNat n,rest)
  | '\\' :: c :: rest => (shortEscapes.lookup c).map fun d => (d,rest)
  | c :: rest => if c = '"' ∨ c = '\\' ∨ c.toNat < 32 then none else some (c,rest)
  | [] => none

theorem readRune_plain {c : Char} (rest : List Char) (hquote : c ≠ '"') (hslash : c ≠ '\\')
    (hcontrol : ¬c.toNat < 32) : readRune (c :: rest) = some (c,rest) := by
  unfold readRune
  split
  · next heq => simp_all
  · next heq => simp_all
  · next heq =>
    obtain ⟨rfl,rfl⟩ := List.cons.inj heq
    rw [if_neg (by simp [hquote,hslash,hcontrol])]
  · next heq => cases heq

theorem readRune_hex {a b c d : Char} {i j k l : Nat} (rest : List Char) (ha : hexValue a = some i)
    (hb : hexValue b = some j) (hc : hexValue c = some k) (hd : hexValue d = some l)
    (hn : ¬(0xD800 ≤ 4096 * i + 256 * j + 16 * k + l ∧ 4096 * i + 256 * j + 16 * k + l ≤ 0xDFFF)) :
    readRune ('\\' :: 'u' :: a :: b :: c :: d :: rest) =
      some (Char.ofNat (4096 * i + 256 * j + 16 * k + l),rest) := by
  simp [readRune,ha,hb,hc,hd,hn]

theorem hexValue_digitChar {n : Nat} (h : n < 16) : hexValue (Nat.digitChar n) = some n := by
  have hall : ∀ n < 16, hexValue (Nat.digitChar n) = some n := by decide
  exact hall n h

/-- Every character that is written is read back, and U+FFFD for a byte that is none. -/
theorem readRune_escapeRune (r : Option Char) (rest : List Char) :
    readRune (escapeRune r ++ rest) = some (r.getD '\uFFFD',rest) := by
  cases r with
  | none =>
    exact readRune_hex (i := 15) (j := 15) (k := 15) (l := 13) rest rfl rfl rfl rfl (by decide)
  | some c =>
    simp only [escapeRune,Option.getD_some]
    split_ifs with h1 h2 h3 h4 h5 h6 h7 h8
    · rcases h1 with rfl | rfl <;> rfl
    · obtain rfl : c = Char.ofNat 8 := by rw [← h2,Char.ofNat_toNat]
      rfl
    · obtain rfl : c = Char.ofNat 12 := by rw [← h3,Char.ofNat_toNat]
      rfl
    · subst h4
      rfl
    · subst h5
      rfl
    · subst h6
      rfl
    · have hc : 4096 * 0 + 256 * 0 + 16 * (c.toNat / 16) + c.toNat % 16 = c.toNat := by omega
      have hread := readRune_hex rest (a := '0') (b := '0') (i := 0) (j := 0) rfl rfl
        (hexValue_digitChar (n := c.toNat / 16) (by omega))
        (hexValue_digitChar (n := c.toNat % 16) (by omega)) (by omega)
      rwa [hc,Char.ofNat_toNat] at hread
    · have hc : 4096 * 2 + 256 * 0 + 16 * 2 + c.toNat % 16 = c.toNat := by omega
      have hread := readRune_hex rest (a := '2') (b := '0') (c := '2') (i := 2) (j := 0) (k := 2)
        rfl rfl rfl (hexValue_digitChar (n := c.toNat % 16) (by omega)) (by omega)
      rwa [hc,Char.ofNat_toNat] at hread
    · exact readRune_plain rest (fun h => h1 (.inr h)) (fun h => h1 (.inl h)) h7

def runeCodec : Codec (Option Char) Char where
  print := escapeRune
  read := readRune
  value r := r.getD '\uFFFD'
  read_print := readRune_escapeRune

theorem runeCodec_startsUnlike : runeCodec.StartsUnlike '"' := by
  intro r
  cases r with
  | none => exact ⟨'\\',_,rfl,by decide⟩
  | some c =>
    simp only [runeCodec,escapeRune]
    split_ifs with h1 h2 h3 h4 h5 h6 h7 h8
    case neg => exact ⟨c,_,rfl,fun h => h1 (.inr h)⟩
    all_goals exact ⟨'\\',_,rfl,by decide⟩

/-- A string as `Encode` writes it, with U+FFFD for the bytes that are in no character. -/
def stringCodec : Codec Runes (List Char) := (runeCodec.many '"' runeCodec_startsUnlike).after ['"']

def textCodec : Codec (List Char) (List Char) := stringCodec.map (List.map some) id

def hitCodec : Codec (Hit Runes) (Hit (List Char)) :=
  ((textCodec.after "\x7b\"surface\":\"host_file\",\"location\":".toList).pair
    ((textCodec.after ",\"matched_term\":".toList).pair
      ((stringCodec.after ",\"snippet\":".toList).pair
        ((textCodec.after ",\"consumer_identity\":\x7b\"stable_id\":".toList).pair
          ((textCodec.after ",\"hostname\":".toList).pair
            ((textCodec.after ",\"surface_metadata\":\x7b\"file_type\":".toList).pair
              (Codec.nothing.after "\x7d\x7d\x7d".toList))))))).map
    (fun h => (h.location,h.matchedTerm,h.snippet,h.stableId,h.hostname,h.fileType,()))
    fun (location,matchedTerm,snippet,stableId,hostname,fileType,_) =>
      ⟨location,matchedTerm,snippet,stableId,hostname,fileType⟩

theorem hitCodec_startsUnlike : hitCodec.StartsUnlike ']' := fun _ => ⟨'{',_,rfl,by decide⟩

def outputCodec : Codec (ScanOutput Runes) (ScanOutput (List Char)) :=
  (((hitCodec.commas ']' (by decide) hitCodec_startsUnlike).after "\x7b\"hits\":[".toList).pair
    (((Codec.natural ',' rfl).after ",\"scan_summary\":\x7b\"scanned\":".toList).pair
      (((Codec.natural '}' rfl).after "\"matched\":".toList).pair
        (Codec.nothing.after "\x7d".toList)))).map
    (fun out => (out.hits,out.scanned,out.matched,()))
    fun (hits,scanned,matched,_) => ⟨hits,scanned,matched⟩

/-- `json.NewEncoder(…).Encode`. -/
def encode (out : ScanOutput Runes) : List Char := outputCodec.print out ++ ['\n']

/-- `json.Unmarshal` of what `Encode` writes. -/
def unmarshal (text : List Char) : Option (ScanOutput (List Char)) :=
  match outputCodec.read text with
  | some (out,[]) => some out
  | _ => none

theorem unmarshal_print (out : ScanOutput Runes) :
    unmarshal (outputCodec.print out) = some (outputCodec.value out) := by
  have hread := outputCodec.read_print out []
  rw [List.append_nil] at hread
  rw [unmarshal,hread]

end Json

/-- A path with the kind of file that is expected there. -/
structure Candidate where
  path : List Char
  fileType : String

/-- What a scan finds on a host. `glob` gives the files that `filepath.Glob`, or the walk for a
pattern with `**`, finds, and `read` the content of a file that can be read to its end. -/
structure ScanHost where
  home : List Char
  hostname : List Char
  glob : String → List (List Char)
  fileExists : List Char → Bool
  read : List Char → Option Bytes

def ScanHost.envFiles (h : ScanHost) : List (List Char) :=
  ["/etc/environment".toList,h.home ++ "/.env".toList,h.home ++ "/.bashrc".toList] ++
    h.glob "/etc/profile.d/*.sh"

def ScanHost.candidates (h : ScanHost) : List Candidate :=
  ((h.envFiles.filter h.fileExists).map fun p => ⟨p,"env_file"⟩) ++
  (["/etc/app*.conf","/opt/**/*.conf","/opt/**/*.yaml","/opt/**/*.toml"].flatMap fun pattern =>
    (h.glob pattern).map fun p => ⟨p,"config_file"⟩) ++
  (["/etc/systemd/system/*.service","/lib/systemd/system/*.service"].flatMap fun pattern =>
    (h.glob pattern).map fun p => ⟨p,"systemd_unit"⟩) ++
  ["/opt/**/docker-compose.yml","/opt/**/docker-compose.yaml"].flatMap fun pattern =>
    (h.glob pattern).map fun p => ⟨p,"docker_compose"⟩

/-- The first candidate of each path. -/
def dedupe (seen : List (List Char)) : List Candidate → List Candidate
  | [] => []
  | c :: cs => if c.path ∈ seen then dedupe seen cs else c :: dedupe (c.path :: seen) cs

def ScanHost.files (h : ScanHost) : List Candidate := dedupe [] h.candidates

def scanTerms (terms : List Char) : List (List Char) :=
  ((terms.splitOn ',').map trimSpace).filter (· ≠ [])

structure ScanArgs where
  terms : List (List Char) := []
  assetId : List Char := []

def parseArgs (a : ScanArgs) : List (List Char) → ScanArgs
  | flag :: value :: rest =>
    if flag = "--terms".toList then
      parseArgs { a with terms := a.terms ++ scanTerms value } rest
    else if flag = "--asset-id".toList then parseArgs { a with assetId := value } rest
    else if flag = "--paths".toList ∨ flag = "--extensions".toList then parseArgs a rest
    else parseArgs a (value :: rest)
  | _ => a

/-- The lines of a content, without the empty one after a last line feed. -/
def byteLines (content : Bytes) : List Bytes :=
  if (content.splitOn 10).getLast? = some [] then (content.splitOn 10).dropLast
  else content.splitOn 10

def dropCR (line : Bytes) : Bytes := if line.getLast? = some 13 then line.dropLast else line

/-- The lines with their numbers. -/
def numberedLines (content : Bytes) : List (Runes × Nat) :=
  ((byteLines content).map fun line => runes (dropCR line)).zipIdx 1

/-- No line is too long for `bufio.Scanner`. -/
def Scannable (content : Bytes) : Prop := ∀ line ∈ byteLines content, line.length < scanLimit

instance (content : Bytes) : Decidable (Scannable content) :=
  inferInstanceAs (Decidable (∀ line ∈ byteLines content, line.length < scanLimit))

/-- The line contains the term when both are in lower case. -/
def ContainsFold (lower : Char → Char) (line : Runes) (term : List Char) : Prop :=
  term.map lower <:+: line.map fun r => lower (r.getD '\uFFFD')

instance (lower : Char → Char) (line : Runes) (term : List Char) :
    Decidable (ContainsFold lower line term) :=
  inferInstanceAs (Decidable (term.map lower <:+: line.map fun r => lower (r.getD '\uFFFD')))

/-- `fmt.Sprintf("%s:%d",path,line)`. -/
def location (path : List Char) (line : Nat) : List Char := path ++ ':' :: Nat.toDigits 10 line

section Scan

variable (lower : Char → Char) (h : ScanHost) (terms : List (List Char)) (stableId : List Char)

def lineHits (c : Candidate) (line : Runes × Nat) : List (Hit Runes) :=
  (terms.filter fun t => ContainsFold lower line.1 t).map fun t => {
    location := location c.path line.2
    matchedTerm := t
    snippet := line.1
    stableId := stableId
    hostname := h.hostname
    fileType := c.fileType.toList }

def fileHits (c : Candidate) (content : Bytes) : List (Hit Runes) :=
  (numberedLines content).flatMap (lineHits lower h terms stableId c)

/-- A file with a line that is too long ends in an error, with which its hits are dropped. -/
def scanFile (c : Candidate) : Option (List (Hit Runes)) :=
  (h.read c.path).bind fun content =>
    if Scannable content then some (fileHits lower h terms stableId c content) else none

def scanFiles : ScanOutput Runes :=
  let found := h.files.filterMap (scanFile lower h terms stableId)
  { hits := found.flatten, scanned := found.length, matched := (found.map List.length).sum }

/-- What `Run` writes. -/
def runScan (args : List (List Char)) : Except String (List Char) :=
  let a := parseArgs {} args
  if a.terms = [] then .error "--terms is required"
  else
    let stableId := if a.assetId = [] then h.hostname else a.assetId
    .ok (encode (scanFiles lower h a.terms stableId))

end Scan

/-- A write blocks once so much is unread. -/
def pipeCapacity : Nat := 65536

/-- `blocked` is a call that does not return. -/
inductive ScanResult where
  | blocked
  | failed (error : String)
  | done (out : ScanOutput (List Char))

/-- The tokens of `bufio.Scanner` one behind the other. -/
def readBack (written : List Char) : List Char :=
  (((lines written).takeWhile fun l => byteSize l < scanLimit).map fun l =>
    if l.getLast? = some '\r' then l.dropLast else l).flatten

def executeScan (lower : Char → Char) (h : ScanHost) (termsRaw assetId : List Char) : ScanResult :=
  let args := (if termsRaw = [] then [] else ["--terms".toList,termsRaw]) ++
    if assetId = [] then [] else ["--asset-id".toList,assetId]
  match runScan lower h args with
  | .error e => .failed e
  | .ok written =>
    if pipeCapacity < byteSize written then .blocked
    else
      match unmarshal (readBack written) with
      | none => .failed "parse scan output"
      | some out => .done out

section Complete

variable (lower : Char → Char) (h : ScanHost) (terms : List (List Char)) (stableId : List Char)

/-- The place and the term for each line of a readable file that contains the term. -/
def expectedEntries : List (List Char × List Char) :=
  h.files.flatMap fun c => (h.read c.path).toList.flatMap fun content =>
    (numberedLines content).flatMap fun line =>
      (terms.filter fun t => ContainsFold lower line.1 t).map fun t => (location c.path line.2,t)

def Hit.entry {τ : Type} (hit : Hit τ) : List Char × List Char := (hit.location,hit.matchedTerm)

/-- The scan returns one hit for each line and term, and no other. -/
def ScanComplete (termsRaw assetId : List Char) : Prop :=
  ∃ out, executeScan lower h termsRaw assetId = .done out ∧
    (out.hits.map Hit.entry).Perm (expectedEntries lower h (scanTerms termsRaw))

/-- No term is in a file with a line that is too long. -/
def LongLinesFree : Prop :=
  ∀ c ∈ h.files, ∀ content, h.read c.path = some content → ¬Scannable content →
    ∀ line ∈ numberedLines content, ∀ t ∈ terms, ¬ContainsFold lower line.1 t

/-- The bytes of a string between quotes. -/
def textSize (s : Runes) : Nat := (s.map fun r => byteSize (escapeRune r)).sum + 2

def entrySize (c : Candidate) (line : Runes × Nat) (t : List Char) : Nat :=
  143 + textSize ((location c.path line.2).map some) + textSize (t.map some) + textSize line.1 +
    textSize (stableId.map some) + textSize (h.hostname.map some) +
    textSize (c.fileType.toList.map some)

/-- The sizes of the hits for all lines that contain a term. -/
def entrySizes : List Nat :=
  h.files.flatMap fun c => (h.read c.path).toList.flatMap fun content =>
    (numberedLines content).flatMap fun line =>
      (terms.filter fun t => ContainsFold lower line.1 t).map (entrySize h stableId c line)

/-- The bytes of an answer with all hits, one comma or bracket each, and its two numbers. -/
def answerSize : Nat :=
  let sizes := entrySizes lower h terms stableId
  let scanned := h.files.filter fun c => (h.read c.path).any fun content => Scannable content
  50 + max 1 (sizes.map (· + 1)).sum + byteSize (Nat.toDigits 10 scanned.length) +
    byteSize (Nat.toDigits 10 sizes.length)

end Complete

section Sizes

variable {hit : Hit Runes} {out : ScanOutput Runes}

theorem stringCodec_size (s : Runes) : byteSize (stringCodec.print s) = textSize s := by
  have hquote : byteSize ['"'] = 1 := by decide
  have hrune : runeCodec.print = escapeRune := rfl
  rw [stringCodec,Codec.print_after,Codec.print_many,byteSize_append,byteSize_append,
    byteSize_flatMap,hquote,textSize,hrune]
  omega

theorem textCodec_size (s : List Char) :
    byteSize (textCodec.print s) = textSize (s.map some) := stringCodec_size _

def hitSize (hit : Hit Runes) : Nat :=
  143 + textSize (hit.location.map some) + textSize (hit.matchedTerm.map some) +
    textSize hit.snippet + textSize (hit.stableId.map some) + textSize (hit.hostname.map some) +
    textSize (hit.fileType.map some)

theorem hitCodec_size (hit : Hit Runes) : byteSize (hitCodec.print hit) = hitSize hit := by
  have h₁ : byteSize "\x7b\"surface\":\"host_file\",\"location\":".toList = 34 := by decide
  have h₂ : byteSize ",\"matched_term\":".toList = 16 := by decide
  have h₃ : byteSize ",\"snippet\":".toList = 11 := by decide
  have h₄ : byteSize ",\"consumer_identity\":\x7b\"stable_id\":".toList = 34 := by decide
  have h₅ : byteSize ",\"hostname\":".toList = 12 := by decide
  have h₆ : byteSize ",\"surface_metadata\":\x7b\"file_type\":".toList = 33 := by decide
  have h₇ : byteSize "\x7d\x7d\x7d".toList = 3 := by decide
  have hnil : byteSize [] = 0 := rfl
  simp only [hitCodec,Codec.print_map,Codec.print_pair,Codec.print_after,Codec.print_nothing,
    byteSize_append,textCodec_size,stringCodec_size,h₁,h₂,h₃,h₄,h₅,h₆,h₇,hnil,hitSize]
  omega

theorem hits_size (hits : List (Hit Runes)) :
    byteSize ((hitCodec.commas ']' (by decide) hitCodec_startsUnlike).print hits) =
      max 1 ((hits.map hitSize).map (· + 1)).sum := by
  have hcomma : byteSize [','] = 1 := by decide
  have hbracket : byteSize [']'] = 1 := by decide
  cases hits with
  | nil => rfl
  | cons hit hits =>
    have hothers : ∀ hit, byteSize ((hitCodec.after [',']).print hit) = hitSize hit + 1 := by
      intro hit
      rw [Codec.print_after,byteSize_append,hcomma,hitCodec_size,Nat.add_comm]
    rw [Codec.print_commas_cons,byteSize_append,byteSize_append,byteSize_flatMap,hitCodec_size,
      hbracket,funext hothers]
    simp only [List.map_cons,List.sum_cons,List.map_map,Function.comp_def]
    omega

theorem encode_size (out : ScanOutput Runes) : byteSize (encode out) =
    50 + max 1 ((out.hits.map hitSize).map (· + 1)).sum + byteSize (Nat.toDigits 10 out.scanned) +
      byteSize (Nat.toDigits 10 out.matched) := by
  have h₁ : byteSize "\x7b\"hits\":[".toList = 9 := by decide
  have h₂ : byteSize ",\"scan_summary\":\x7b\"scanned\":".toList = 27 := by decide
  have h₃ : byteSize "\"matched\":".toList = 10 := by decide
  have h₄ : byteSize "\x7d".toList = 1 := by decide
  have h₅ : byteSize [','] = 1 := by decide
  have h₆ : byteSize ['}'] = 1 := by decide
  have h₇ : byteSize ['\n'] = 1 := by decide
  have hnil : byteSize [] = 0 := rfl
  simp only [encode,outputCodec,Codec.print_map,Codec.print_pair,Codec.print_after,
    Codec.print_nothing,Codec.print_natural,byteSize_append,hits_size,h₁,h₂,h₃,h₄,h₅,h₆,h₇,hnil]
  omega

end Sizes

section Writing

theorem escapeRune_oneLine (r : Option Char) : ∀ c ∈ escapeRune r, c ≠ '\n' ∧ c ≠ '\r' := by
  cases r with
  | none => simp [escapeRune]
  | some c =>
    have hdigit : ∀ n < 16, Nat.digitChar n ≠ '\n' ∧ Nat.digitChar n ≠ '\r' := by simp
    simp only [escapeRune]
    split_ifs with h1 h2 h3 h4 h5 h6 h7 h8
    · rcases h1 with rfl | rfl <;> simp
    case neg =>
      intro d hd
      obtain rfl := List.mem_singleton.mp hd
      exact ⟨h4,h5⟩
    · simp
    · simp
    · simp
    · simp
    · simp
    · have := hdigit (c.toNat / 16) (by omega)
      have := hdigit (c.toNat % 16) (by omega)
      simp_all
    · have := hdigit (c.toNat % 16) (by omega)
      simp_all

theorem stringCodec_oneLine : stringCodec.Prints fun c => c ≠ '\n' ∧ c ≠ '\r' :=
  Codec.prints_after (by simp) (Codec.prints_many escapeRune_oneLine (by simp))

theorem textCodec_oneLine : textCodec.Prints fun c => c ≠ '\n' ∧ c ≠ '\r' :=
  Codec.prints_map _ _ stringCodec_oneLine

theorem outputCodec_oneLine : outputCodec.Prints fun c => c ≠ '\n' ∧ c ≠ '\r' := by
  have hdigit : ∀ c : Char, c.isDigit = true → c ≠ '\n' ∧ c ≠ '\r' := by
    rintro c hc
    constructor <;> rintro rfl <;> simp at hc
  have hhit : hitCodec.Prints fun c => c ≠ '\n' ∧ c ≠ '\r' := by
    unfold hitCodec
    refine Codec.prints_map _ _ (Codec.prints_pair ?_ (Codec.prints_pair ?_ (Codec.prints_pair ?_
      (Codec.prints_pair ?_ (Codec.prints_pair ?_ (Codec.prints_pair ?_ ?_))))))
    all_goals
      refine Codec.prints_after (by simp) ?_
    · exact textCodec_oneLine
    · exact textCodec_oneLine
    · exact stringCodec_oneLine
    · exact textCodec_oneLine
    · exact textCodec_oneLine
    · exact textCodec_oneLine
    · exact Codec.prints_nothing
  unfold outputCodec
  refine Codec.prints_map _ _ (Codec.prints_pair ?_ (Codec.prints_pair ?_ (Codec.prints_pair ?_ ?_)))
  all_goals
    refine Codec.prints_after (by simp) ?_
  · exact Codec.prints_commas hhit (by decide) (by decide)
  · exact Codec.prints_natural (by decide) hdigit
  · exact Codec.prints_natural (by decide) hdigit
  · exact Codec.prints_nothing

/-- What fits into the pipe is one token, and is read back whole. -/
theorem readBack_encode {out : ScanOutput Runes} (h : byteSize (encode out) ≤ pipeCapacity) :
    readBack (encode out) = outputCodec.print out := by
  have honeLine := outputCodec_oneLine out
  have hsize : byteSize (outputCodec.print out) < scanLimit := by
    have hfeed : byteSize ['\n'] = 1 := by decide
    rw [encode,byteSize_append,hfeed] at h
    simp only [pipeCapacity,scanLimit] at h ⊢
    omega
  have hlines : lines (encode out) = [outputCodec.print out] := by
    have hunlines : encode out = unlines [outputCodec.print out] := by simp [encode,unlines]
    rw [hunlines]
    exact lines_unlines (by simpa using fun hmem => (honeLine '\n' hmem).1 rfl)
  have hlast : (outputCodec.print out).getLast? ≠ some '\r' := by
    intro hr
    exact (honeLine '\r' (List.mem_of_getLast? hr)).2 rfl
  simp [readBack,hlines,hsize,hlast]

theorem parseArgs_terms (a : ScanArgs) (value : List Char) (rest : List (List Char)) :
    parseArgs a ("--terms".toList :: value :: rest) =
      parseArgs { a with terms := a.terms ++ scanTerms value } rest := by
  rw [parseArgs,if_pos rfl]

theorem parseArgs_assetId (a : ScanArgs) (value : List Char) (rest : List (List Char)) :
    parseArgs a ("--asset-id".toList :: value :: rest) =
      parseArgs { a with assetId := value } rest := by
  have hne : "--asset-id".toList ≠ "--terms".toList := by simp
  rw [parseArgs,if_neg hne,if_pos rfl]

theorem parseArgs_nil (a : ScanArgs) : parseArgs a [] = a := rfl

theorem parseArgs_execute (termsRaw assetId : List Char) :
    parseArgs {} ((if termsRaw = [] then [] else ["--terms".toList,termsRaw]) ++
      if assetId = [] then [] else ["--asset-id".toList,assetId]) =
    { terms := if termsRaw = [] then [] else scanTerms termsRaw, assetId := assetId } := by
  by_cases hterms : termsRaw = []
  · rw [if_pos hterms,if_pos hterms,List.nil_append]
    by_cases hasset : assetId = []
    · rw [if_pos hasset,parseArgs_nil,hasset]
    · rw [if_neg hasset,parseArgs_assetId,parseArgs_nil]
  · rw [if_neg hterms,if_neg hterms,List.cons_append,List.cons_append,parseArgs_terms,
      List.nil_append,List.nil_append]
    by_cases hasset : assetId = []
    · rw [if_pos hasset,parseArgs_nil,hasset]
    · rw [if_neg hasset,parseArgs_assetId,parseArgs_nil]

end Writing

section Execution

variable {lower : Char → Char} {h : ScanHost} {termsRaw assetId : List Char}

def scanStableId (h : ScanHost) (assetId : List Char) : List Char :=
  if assetId = [] then h.hostname else assetId

/-- The call returns what it has written when that fits into the pipe, and else does not return. -/
theorem executeScan_eq (hterms : scanTerms termsRaw ≠ []) :
    executeScan lower h termsRaw assetId =
      let out := scanFiles lower h (scanTerms termsRaw) (scanStableId h assetId)
      if pipeCapacity < byteSize (encode out) then .blocked else .done (outputCodec.value out) := by
  have hraw : termsRaw ≠ [] := by
    rintro rfl
    exact hterms rfl
  rw [executeScan]
  dsimp only
  rw [runScan,parseArgs_execute]
  simp only [if_neg hraw,if_neg hterms]
  rw [← scanStableId]
  split
  · rfl
  · next hfits => rw [readBack_encode (not_lt.mp hfits),unmarshal_print]

theorem textCodec_value (s : List Char) : textCodec.value s = s := by
  have hrune : runeCodec.value = fun r => r.getD '\uFFFD' := rfl
  rw [textCodec,Codec.value_map,stringCodec,Codec.value_after,Codec.value_many,hrune,List.map_map]
  exact List.map_id _

theorem entry_value (hit : Hit Runes) : (hitCodec.value hit).entry = hit.entry := by
  simp only [hitCodec,Codec.value_map,Codec.value_pair,Codec.value_after,textCodec_value,Hit.entry]

/-- What is read back has the entries that were written. -/
theorem entries_value (out : ScanOutput Runes) :
    (outputCodec.value out).hits.map Hit.entry = out.hits.map Hit.entry := by
  simp only [outputCodec,Codec.value_map,Codec.value_pair,Codec.value_after,Codec.value_commas,
    List.map_map]
  exact List.map_congr_left fun hit _ => entry_value hit

end Execution

section Files

variable {lower : Char → Char} {h : ScanHost} {terms : List (List Char)} {stableId : List Char}

/-- The hits for all lines of readable files. -/
def expectedHits (lower : Char → Char) (h : ScanHost) (terms : List (List Char))
    (stableId : List Char) : List (Hit Runes) :=
  h.files.flatMap fun c => (h.read c.path).toList.flatMap (fileHits lower h terms stableId c)

theorem entries_expected :
    (expectedHits lower h terms stableId).map Hit.entry = expectedEntries lower h terms := by
  simp only [expectedHits,expectedEntries,fileHits,lineHits,List.map_flatMap,List.map_map]
  rfl

theorem sizes_expected :
    (expectedHits lower h terms stableId).map hitSize = entrySizes lower h terms stableId := by
  simp only [expectedHits,entrySizes,fileHits,lineHits,List.map_flatMap,List.map_map]
  rfl

theorem flatten_filterMap {α β : Type} (f : α → Option (List β)) (as : List α) :
    (as.filterMap f).flatten = as.flatMap fun a => (f a).getD [] := by
  induction as with
  | nil => rfl
  | cons a as ih => cases hf : f a <;> simp [hf,ih]

/-- Without terms in files that end in an error the hits are all hits. -/
theorem scanFiles_hits (hfree : LongLinesFree lower h terms) :
    (scanFiles lower h terms stableId).hits = expectedHits lower h terms stableId := by
  rw [scanFiles,flatten_filterMap,expectedHits]
  refine List.flatMap_congr fun c hc => ?_
  rw [scanFile]
  cases hread : h.read c.path with
  | none => rfl
  | some content =>
    rw [Option.bind_some,Option.toList_some,List.flatMap_singleton]
    split
    · rfl
    · next hlong =>
      symm
      refine List.flatMap_eq_nil_iff.mpr fun line hline => ?_
      rw [lineHits,List.map_eq_nil_iff,List.filter_eq_nil_iff]
      intro t ht
      simpa using hfree c hc content hread hlong line hline t ht

theorem scanFiles_matched : (scanFiles lower h terms stableId).matched =
    (scanFiles lower h terms stableId).hits.length := by
  simp only [scanFiles,List.length_flatten]

theorem scanFiles_scanned : (scanFiles lower h terms stableId).scanned =
    (h.files.filter fun c => (h.read c.path).any fun content => Scannable content).length := by
  have hlength : (scanFiles lower h terms stableId).scanned =
    (h.files.filterMap (scanFile lower h terms stableId)).length := rfl
  rw [hlength,List.length_filterMap_eq_countP,List.countP_eq_length_filter]
  congr 1
  refine List.filter_congr fun c _ => ?_
  rw [scanFile]
  cases h.read c.path with
  | none => rfl
  | some content => by_cases hscan : Scannable content <;> simp [hscan]

theorem scanFiles_size (hfree : LongLinesFree lower h terms) :
    byteSize (encode (scanFiles lower h terms stableId)) = answerSize lower h terms stableId := by
  rw [encode_size,scanFiles_matched,scanFiles_scanned,scanFiles_hits hfree,← List.length_map hitSize,
    sizes_expected]
  rfl

theorem location_inj {p q : List Char} {n m : Nat} (heq : location p n = location q m) :
    p = q ∧ n = m := by
  have hcolon : ∀ k, ':' ∉ Nat.toDigits 10 k := by
    intro k hk
    have hdigit := Nat.isDigit_of_mem_toDigits (by decide) (by decide) hk
    simp at hdigit
  have hsplit := congrArg (splitLast ':') heq
  rw [location,location,splitLast_append p (hcolon n),splitLast_append q (hcolon m)] at hsplit
  obtain ⟨hpath,hdigits⟩ := Prod.mk.inj (Option.some.inj hsplit)
  refine ⟨hpath,?_⟩
  rw [← Nat.ofDigitChars_ten_toDigits (n := n),hdigits,Nat.ofDigitChars_ten_toDigits]

theorem mem_expectedEntries {e : List Char × List Char} : e ∈ expectedEntries lower h terms ↔
    ∃ c ∈ h.files, ∃ content, h.read c.path = some content ∧ ∃ line ∈ numberedLines content,
      ∃ t ∈ terms, ContainsFold lower line.1 t ∧ e = (location c.path line.2,t) := by
  simp only [expectedEntries,List.mem_flatMap,Option.mem_toList,List.mem_map,List.mem_filter,
    decide_eq_true_eq]
  constructor
  · rintro ⟨c,hc,content,hread,line,hline,t,⟨ht,hin⟩,rfl⟩
    exact ⟨c,hc,content,hread,line,hline,t,ht,hin,rfl⟩
  · rintro ⟨c,hc,content,hread,line,hline,t,ht,hin,rfl⟩
    exact ⟨c,hc,content,hread,line,hline,t,⟨ht,hin⟩,rfl⟩

/-- The hits are in files without a line that is too long. -/
theorem entry_scannable {e : List Char × List Char}
    (he : e ∈ (scanFiles lower h terms stableId).hits.map Hit.entry) :
    ∃ c ∈ h.files, ∃ content, h.read c.path = some content ∧ Scannable content ∧
      ∃ n, e.1 = location c.path n := by
  obtain ⟨hit,hhit,rfl⟩ := List.mem_map.mp he
  obtain ⟨hits,hhits,hmem⟩ := List.mem_flatten.mp hhit
  obtain ⟨c,hc,hscan⟩ := List.mem_filterMap.mp hhits
  obtain ⟨content,hread,hscan⟩ := Option.bind_eq_some_iff.mp hscan
  obtain ⟨hscannable,heq⟩ := Option.ite_none_right_eq_some.mp hscan
  obtain rfl := Option.some.inj heq
  obtain ⟨line,_,hline⟩ := List.mem_flatMap.mp hmem
  obtain ⟨t,_,rfl⟩ := List.mem_map.mp hline
  exact ⟨c,hc,content,hread,hscannable,line.2,rfl⟩

theorem longLinesFree_of_entries
    (hall : ∀ e ∈ expectedEntries lower h terms,
      e ∈ (scanFiles lower h terms stableId).hits.map Hit.entry) :
    LongLinesFree lower h terms := by
  intro c hc content hread hlong line hline t ht hin
  obtain ⟨c',_,content',hread',hscannable,n,hlocation⟩ := entry_scannable
    (hall _ (mem_expectedEntries.mpr ⟨c,hc,content,hread,line,hline,t,ht,hin,rfl⟩))
  rw [← (location_inj hlocation).1,hread] at hread'
  obtain rfl := Option.some.inj hread'
  exact hlong hscannable

end Files

section Completeness

variable {lower : Char → Char} {h : ScanHost} {termsRaw assetId : List Char}

theorem longLinesFree_of_complete (hterms : scanTerms termsRaw ≠ [])
    (hcomplete : ScanComplete lower h termsRaw assetId) :
    LongLinesFree lower h (scanTerms termsRaw) := by
  obtain ⟨out,hout,hperm⟩ := hcomplete
  rw [executeScan_eq hterms] at hout
  dsimp only at hout
  split at hout
  · cases hout
  · obtain rfl := ScanResult.done.inj hout
    rw [entries_value] at hperm
    exact longLinesFree_of_entries fun e he => hperm.mem_iff.mpr he

/-- Where nothing is lost to long lines, the size of the answer decides. -/
theorem executeScan_free (hterms : scanTerms termsRaw ≠ [])
    (hfree : LongLinesFree lower h (scanTerms termsRaw)) :
    executeScan lower h termsRaw assetId =
      if pipeCapacity < answerSize lower h (scanTerms termsRaw) (scanStableId h assetId) then
        .blocked
      else .done (outputCodec.value
        (scanFiles lower h (scanTerms termsRaw) (scanStableId h assetId))) := by
  rw [executeScan_eq hterms,← scanFiles_size hfree]

/-- The scan is complete exactly when no term is in a file with a line of 64 KiB or more and the
answer fits into the pipe. -/
theorem scanComplete_iff (hterms : scanTerms termsRaw ≠ []) :
    ScanComplete lower h termsRaw assetId ↔ LongLinesFree lower h (scanTerms termsRaw) ∧
      answerSize lower h (scanTerms termsRaw) (scanStableId h assetId) ≤ pipeCapacity := by
  constructor
  · intro hcomplete
    have hfree := longLinesFree_of_complete hterms hcomplete
    obtain ⟨out,hout,_⟩ := hcomplete
    rw [executeScan_free hterms hfree] at hout
    split at hout
    · cases hout
    · next hfits => exact ⟨hfree,not_lt.mp hfits⟩
  · rintro ⟨hfree,hsize⟩
    refine ⟨_,(executeScan_free hterms hfree).trans (if_neg (not_lt.mpr hsize)),?_⟩
    rw [entries_value,scanFiles_hits hfree,entries_expected]

end Completeness

section Samples

def environmentPath : List Char := "/etc/environment".toList

def referenceLine : Bytes := utf8 "DB=old-db"

/-- A host with no other file than `/etc/environment`. -/
def environmentHost (content : Bytes) : ScanHost where
  home := "/root".toList
  hostname := "web-1".toList
  glob _ := []
  fileExists p := p = environmentPath
  read p := if p = environmentPath then some content else none

def referenceTerm : List Char := "OLD-DB".toList

theorem environment_files (content : Bytes) :
    (environmentHost content).files = [⟨environmentPath,"env_file"⟩] := by
  have hfiles : (environmentHost []).files = [⟨environmentPath,"env_file"⟩] := by rfl
  exact hfiles

theorem environment_free {content : Bytes} {terms : List (List Char)} (hscan : Scannable content) :
    LongLinesFree Char.toLower (environmentHost content) terms := by
  intro c hc content' hread hlong
  rw [environment_files] at hc
  obtain rfl := List.mem_singleton.mp hc
  obtain rfl : content = content' := by simpa [environmentHost] using hread
  exact absurd hscan hlong

/-- A short file is searched whatever the case of the term. -/
theorem scanComplete_environment :
    ScanComplete Char.toLower (environmentHost (referenceLine ++ [10])) referenceTerm [] :=
  (scanComplete_iff (by decide +kernel)).mpr
    ⟨environment_free (by decide +kernel),by decide +kernel⟩

def manyReferences : Bytes := (List.replicate 330 (referenceLine ++ [10])).flatten

/-- A line with the term, and behind it one of `n` bytes. -/
def longLine (n : Nat) : Bytes := referenceLine ++ 10 :: List.replicate n 120

theorem longLine_lines {n : Nat} (hn : 0 < n) :
    byteLines (longLine n) = [referenceLine,List.replicate n 120] := by
  have hfeed : ∀ line ∈ [referenceLine,List.replicate n 120], (10 : UInt8) ∉ line := by
    intro line hline
    rcases List.mem_pair.mp hline with rfl | rfl
    · decide +kernel
    · exact fun h => absurd (List.eq_of_mem_replicate h) (by decide)
  have hlong : longLine n = [10].intercalate [referenceLine,List.replicate n 120] := by
    simp [longLine,List.intercalate]
  rw [byteLines,hlong,List.splitOn_intercalate _ hfeed (by simp)]
  simp [hn.ne']

/-- A large answer is never returned, and a line that is too long takes all hits of its file. -/
theorem references_missed :
    executeScan Char.toLower (environmentHost manyReferences) referenceTerm [] = .blocked ∧
      ¬ScanComplete Char.toLower (environmentHost (longLine scanLimit)) referenceTerm [] := by
  have hterms : scanTerms referenceTerm = [referenceTerm] := by decide +kernel
  have hne : scanTerms referenceTerm ≠ [] := by simp [hterms]
  constructor
  · have hscan : Scannable manyReferences := by decide +kernel
    rw [executeScan_free hne,if_pos]
    · rw [hterms]
      decide +kernel
    · exact environment_free hscan
  · intro hcomplete
    have hfree := longLinesFree_of_complete hne hcomplete
    rw [hterms] at hfree
    have hlines := longLine_lines (n := scanLimit) (by decide)
    refine hfree ⟨environmentPath,"env_file"⟩ (by simp [environment_files]) (longLine scanLimit)
      (by simp [environmentHost]) ?_ (runes referenceLine,1) ?_ referenceTerm (by simp) ?_
    · intro hscan
      have hlong := hscan (List.replicate scanLimit 120) (hlines ▸ List.mem_pair.mpr (.inr rfl))
      exact hlong.ne List.length_replicate
    · have hfirst : dropCR referenceLine = referenceLine := by decide +kernel
      rw [numberedLines,hlines,List.map_cons,List.zipIdx_cons,hfirst]
      exact List.mem_cons_self
    · decide +kernel

end Samples

end Nexplane
