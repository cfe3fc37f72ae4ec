import CastDelivery.Lib.ConfigParser
import CastDelivery.Lib.Numeral
import CastDelivery.Playback.PlayMedia

/-!
# Playlists

The parsers of `helpers.py` for M3U and PLS playlists, with every exception that they raise or let
through. What they use of Python's library and of the network is in `PlaylistEnv`: the answer
to the request, `bytes.decode`, `urlparse` and `str.lower`, each with the exceptions it raises.
-/

namespace CastDelivery

/-- An exception from a playlist parser. -/
inductive PlaylistExc
  /-- `PlaylistSupported`. -/
  | supported (message : String)
  /-- Any other `PlaylistError`. -/
  | error (message : String)
  /-- An exception of another class. -/
  | other (cls : String)
deriving DecidableEq, Repr

/-- The length of an item: the text of a PLS playlist, or the parts of an `EXTINF` line. -/
inductive ItemLength
  | text (text : String)
  | parts (parts : List String)
deriving DecidableEq, Repr

/-- `PlaylistItem`. -/
structure PlaylistItem where
  length : Option ItemLength
  title : Option String
  url : String
deriving DecidableEq, Repr

/-- How `bytes.decode` ends. -/
inductive Decoded
  | text (text : String)
  /-- `ValueError`, of which `UnicodeDecodeError` is a subclass. -/
  | valueError
  /-- `LookupError`, for an encoding that is not known. -/
  | lookupError
deriving DecidableEq, Repr

/-- The answer to a request. -/
structure Response where
  charset : Option String := none
  contentType : String
  content : List UInt8
deriving DecidableEq, Repr

/-- How a request ends. -/
inductive Fetched
  /-- `TimeoutError`. -/
  | timeout
  /-- `aiohttp.client_exceptions.ClientError`. -/
  | clientError
  | response (response : Response)
deriving DecidableEq, Repr

/-- What the parsers use. -/
structure PlaylistEnv where
  /-- `session.get(url)`, and its content. -/
  get : String → Fetched
  /-- `content.decode(charset)`. -/
  decode : String → List UInt8 → Decoded
  /-- The scheme and the network location of `urlparse(url)`, unless it raises `ValueError`. -/
  urlparse : String → Option (String × String)
  /-- `text.lower()`. -/
  lower : List Char → List Char

namespace PlaylistEnv

variable (E : PlaylistEnv)

/-- `_is_url`, unless it raises. -/
def isUrl (url : String) : Option Bool :=
  (E.urlparse url).map fun result => result.1 ≠ "" ∧ result.2 ≠ ""

/-- `_fetch_playlist`. -/
def fetchPlaylist (url : String) (supportedContentTypes : List String) :
    Except PlaylistExc String :=
  match E.get url with
  | .timeout => .error (.error ("Timeout while fetching playlist " ++ url))
  | .clientError => .error (.error ("Error while fetching playlist " ++ url))
  | .response resp =>
    let charset := strOr resp.charset "utf-8"
    if resp.contentType ∈ supportedContentTypes then .error (.supported "")
    else match E.decode charset (resp.content.take (64 * 1024)) with
      | .text text => .ok text
      | .valueError => .error (.error ("Could not decode playlist " ++ url))
      | .lookupError => .error (.other "LookupError")

end PlaylistEnv

/-! ## M3U -/

/-- Whether `str.splitlines` ends a line at a character. -/
def isLineBreak (c : Char) : Bool :=
  let n := c.toNat
  (0xa ≤ n && n ≤ 0xd) || (0x1c ≤ n && n ≤ 0x1e) || n = 0x85 || n = 0x2028 || n = 0x2029

/-- `text.splitlines()`, behind the characters `acc` of its first line. -/
def splitlines (acc : List Char) : List Char → List String
  | [] => if acc = [] then [] else [String.ofList acc.reverse]
  | '\r' :: '\n' :: s => String.ofList acc.reverse :: splitlines [] s
  | c :: s =>
    if isLineBreak c then String.ofList acc.reverse :: splitlines [] s else splitlines (c :: acc) s

/-- The text up to the first occurrence of a word. -/
def upTo (word : List Char) : List Char → List Char
  | [] => []
  | c :: s => if word.isPrefixOf (c :: s) then [] else c :: upTo word s

/-- `text.split(c, 1)`. -/
def splitOnce (c : Char) (text : List Char) : List String :=
  String.ofList (Uri.cut c text).1 :: ((Uri.cut c text).2.map String.ofList).toList

/-- `"#EXTINF:"`. -/
def EXTINF : String := "#EXTINF:"

/-- The length and the title of an `EXTINF` line, unless it has no comma. -/
def extinf (line : String) : Option (List String × String) :=
  let info := Uri.cut ',' (upTo EXTINF.toList (line.toList.drop EXTINF.toList.length))
  info.2.map fun title => (splitOnce ' ' info.1, strip (String.ofList title))

/-- What a stripped line of an M3U playlist is. -/
inductive LineKind
  | extinf (length : List String) (title : String)
  /-- An `EXTINF` line without a comma. -/
  | malformed
  | hls
  | comment
  | blank
  | entry
deriving DecidableEq, Repr

/-- The conditions on a line in `parse_m3u`. -/
def lineKind (line : String) : LineKind :=
  if startsWith line EXTINF then
    match extinf line with
    | some info => .extinf info.1 info.2
    | none => .malformed
  else if startsWith line "#EXT-X-VERSION:" || startsWith line "#EXT-X-STREAM-INF:" then .hls
  else if startsWith line "#" then .comment
  else if line = "" then .blank
  else .entry

/-- The variables of the loop in `parse_m3u`. -/
structure M3uState where
  length : Option (List String) := none
  title : Option String := none
  playlist : List PlaylistItem := []
deriving DecidableEq, Repr

/-- One turn of the loop in `parse_m3u`, with a stripped line. -/
def M3uState.step (isUrl : String → Option Bool) (url : String) (s : M3uState) (line : String) :
    Except PlaylistExc M3uState :=
  match lineKind line with
  | .extinf length title => .ok { s with length := some length, title := some title }
  | .hls => .error (.supported "HLS")
  | .malformed | .comment | .blank => .ok s
  | .entry =>
    match isUrl line with
    | none => .error (.other "ValueError")
    | some false => .error (.error ("Invalid item " ++ line ++ " in playlist " ++ url))
    | some true =>
      .ok
        { length := none
          title := none
          playlist := s.playlist ++ [⟨s.length.map .parts, s.title, line⟩] }

/-- The stripped lines of a text. -/
def strippedLines (text : String) : List String := (splitlines [] text.toList).map strip

/-- The loop in `parse_m3u`. -/
def parseM3uLines (isUrl : String → Option Bool) (url : String) (lines : List String) :
    Except PlaylistExc (List PlaylistItem) :=
  (lines.foldlM (M3uState.step isUrl url) {}).map M3uState.playlist

/-- `parse_m3u`, once the playlist is fetched. -/
def parseM3uText (isUrl : String → Option Bool) (url text : String) :
    Except PlaylistExc (List PlaylistItem) :=
  parseM3uLines isUrl url (strippedLines text)

/-! ## PLS -/

/-- `_PLS_SECTION_PLAYLIST`. -/
def PLS_SECTION_PLAYLIST : List Char := "playlist".toList

/-- The option of an entry, such as `File1`. -/
def entryOption (name : String) (entry : ℕ) : List Char := name.toList ++ Nat.toDigits 10 entry

namespace PlaylistEnv

variable (E : PlaylistEnv)

open ConfigParser

/-- `ConfigParser()`. -/
def rules : Rules := ⟨isSpace, E.lower⟩

/-- `playlist_section.get(option)`. -/
def sectionGet (config : Config) (option : List Char) : Except PlaylistExc (Option String) :=
  match config.get E.rules PLS_SECTION_PLAYLIST option with
  | .missing => .ok none
  | .failed => .error (.other "InterpolationError")
  | .value text => .ok (some (String.ofList text))

/-- `pls_parser[_PLS_SECTION_PLAYLIST].getint("Version")`. -/
def version (config : Config) : Except PlaylistExc (Option Int) :=
  match config.get E.rules PLS_SECTION_PLAYLIST "Version".toList with
  | .missing => .ok none
  | .failed => .error (.other "InterpolationError")
  | .value text =>
    match Numeral.int 10 text with
    | some version => .ok (some version)
    | none => .error (.other "ValueError")

/-- `num_entries`. -/
def numEntries (url : String) (config : Config) : Except PlaylistExc Int :=
  match config.get E.rules PLS_SECTION_PLAYLIST "NumberOfEntries".toList with
  | .missing => .error (.error ("Invalid NumberOfEntries in playlist " ++ url))
  | .failed => .error (.other "InterpolationError")
  | .value text =>
    match Numeral.int 10 text with
    | some entries => .ok entries
    | none => .error (.error ("Invalid NumberOfEntries in playlist " ++ url))

/-- One turn of the loop in `parse_pls`. -/
def plsStep (url : String) (config : Config) (playlist : List PlaylistItem) (entry : ℕ) :
    Except PlaylistExc (List PlaylistItem) :=
  let fileOption := entryOption "File" entry
  if config.hasOption E.rules PLS_SECTION_PLAYLIST fileOption then
    match config.get E.rules PLS_SECTION_PLAYLIST fileOption with
    | .missing => .error (.other "KeyError")
    | .failed => .error (.other "InterpolationError")
    | .value text =>
      let itemUrl := String.ofList text
      match E.isUrl itemUrl with
      | none => .error (.other "ValueError")
      | some false => .error (.error ("Invalid item " ++ itemUrl ++ " in playlist " ++ url))
      | some true =>
        (E.sectionGet config (entryOption "Length" entry)).bind fun length =>
          (E.sectionGet config (entryOption "Title" entry)).map fun title =>
            playlist ++ [⟨length.map .text, title, itemUrl⟩]
  else .ok playlist

/-- The numbers of the entries, `range(1, num_entries + 1)`. -/
def entryRange (entries : Int) : List ℕ := (List.range entries.toNat).map (· + 1)

/-- `parse_pls`, once the playlist is parsed. -/
def parsePlsConfig (url : String) (config : Config) : Except PlaylistExc (List PlaylistItem) :=
  if config.hasSection PLS_SECTION_PLAYLIST then
    (E.version config).bind fun version =>
      if version = some 2 then
        (E.numEntries url config).bind fun entries =>
          (entryRange entries).foldlM (E.plsStep url config) []
      else .error (.error ("Invalid playlist " ++ url))
  else .error (.error ("Invalid playlist " ++ url))

/-- `parse_pls`, once the playlist is fetched. -/
def parsePlsText (url text : String) : Except PlaylistExc (List PlaylistItem) :=
  match ConfigParser.read E.rules text.toList with
  | .error _ => .error (.error ("Can't parse playlist " ++ url))
  | .ok config => E.parsePlsConfig url config

/-! ## `parse_playlist` -/

/-- `hls_content_types`. -/
def HLS_CONTENT_TYPES : List String := ["application/vnd.apple.mpegurl"]

/-- `parse_m3u`. -/
def parseM3u (url : String) : Except PlaylistExc (List PlaylistItem) :=
  (E.fetchPlaylist url HLS_CONTENT_TYPES).bind (parseM3uText E.isUrl url)

/-- `parse_pls`. -/
def parsePls (url : String) : Except PlaylistExc (List PlaylistItem) :=
  (E.fetchPlaylist url []).bind (E.parsePlsText url)

/-- `url.endswith((".m3u", ".m3u8"))`. -/
def isM3u (url : String) : Bool :=
  [".m3u", ".m3u8"].any fun ending => ending.toList.isSuffixOf url.toList

/-- `parse_playlist`. -/
def parsePlaylist (url : String) : Except PlaylistExc (List PlaylistItem) :=
  (if isM3u url then E.parseM3u url else E.parsePls url).bind fun playlist =>
    if playlist = [] then .error (.error ("Empty playlist " ++ url)) else .ok playlist

/-- What `async_play_media` sees of `parse_playlist`. -/
def answer (url : String) : PlaylistAnswer :=
  match E.parsePlaylist url with
  | .ok (item :: _) => .item item.url item.title
  | .ok [] => .escaped
  | .error (.supported _) => .supported
  | .error (.error _) => .failed
  | .error (.other _) => .escaped

end PlaylistEnv

end CastDelivery
