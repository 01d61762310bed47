import MediaServer.Grpc.SignalingSvc
import MediaServer.Transcription.Connecting

/-!
# The servers of a list

A list of SimulStreaming servers comes from the command line or with an
`EnableTranscription` call.  It is cut at its commas and trimmed, and its entries are not
looked at until a session is started at their turn.

* `splitAddresses_listText`: a list of addresses of the documented form is cut into these;
* `hasSession_atTurn_iff`: if there is a server at the address whose turn it is, a session
  is created exactly if the host of the address is an IP literal;
* `servesAddress_iff`: exactly such an address serves sessions.  `localhost:43007`, which
  the documentation names and which is the default of the command line, does not.
-/

namespace MediaServer
namespace Grpc

open Foundation Transcription AddrParser

/-! ## Where a list comes from -/

/-- The options of the command line about transcription. -/
structure Cli where
  enableTranscription : Bool
  /-- "simul-streaming", "openai" or "none" -/
  transcriptionBackend : String
  /-- comma-separated -/
  simulStreamingAddr : String
  openaiApiKey : Option String
  openaiBaseUrl : Option String
  openaiModel : Option String

/-- The configuration of the manager that `main` creates, if transcription is enabled. -/
def Cli.transcriptionConfig (cli : Cli) : Except String (Option TranscriptionConfig) :=
  if cli.enableTranscription then
    if cli.transcriptionBackend = "openai" then
      match cli.openaiApiKey with
      | none => .error "OpenAI API Key is required for openai backend"
      | some apiKey => .ok (some (.withOpenai apiKey cli.openaiBaseUrl cli.openaiModel))
    else if cli.transcriptionBackend = "none" then .ok (some .none)
    else .ok (some (.withServers (splitAddresses cli.simulStreamingAddr)))
  else .ok none

/-- The list is accepted and yields the configuration. -/
inductive AcceptsServers (servers : String) (config : TranscriptionConfig) : Prop
  | commandLine (cli : Cli) (hservers : cli.simulStreamingAddr = servers)
      (hopenai : cli.transcriptionBackend ≠ "openai") (hnone : cli.transcriptionBackend ≠ "none")
      (hconfig : cli.transcriptionConfig = .ok (some config))
  | enableTranscription (request : EnableTranscriptionRequest)
      (hservers : request.simulStreamingAddr = servers)
      (hbackend : request.backend = "simul-streaming")
      (hconfig : configOverride request = .ok (some config))

theorem AcceptsServers.config_eq {servers : String} {config : TranscriptionConfig}
    (haccepts : AcceptsServers servers config) :
    config = .withServers (splitAddresses servers) := by
  cases haccepts with
  | commandLine cli hservers hopenai hnone hconfig =>
      rw [Cli.transcriptionConfig, if_neg hopenai, if_neg hnone, hservers] at hconfig
      split at hconfig
      · exact (Option.some.inj (Except.ok.inj hconfig)).symm
      · simp at hconfig
  | enableTranscription request hservers hbackend hconfig =>
      have hsome : request.backend ≠ "" := by simp [hbackend]
      have hopenai : request.backend ≠ "openai" := by simp [hbackend]
      rw [configOverride, if_neg hsome, if_neg hopenai, if_pos hbackend, hservers] at hconfig
      split at hconfig
      · contradiction
      · exact (Option.some.inj (Except.ok.inj hconfig)).symm

/-! ## What a list is cut into -/

/-- An address with white space around it. -/
structure ListEntry where
  before : List Char
  address : Address
  after : List Char
  hbefore : ∀ char ∈ before, Text.isWhitespace char = true
  hafter : ∀ char ∈ after, Text.isWhitespace char = true

def ListEntry.text (entry : ListEntry) : List Char :=
  entry.before ++ (entry.address.text.toList ++ entry.after)

/-- A comma-separated list. -/
def listText (entries : List ListEntry) : String :=
  String.ofList ([','].intercalate (entries.map ListEntry.text))

theorem trim_listEntry (entry : ListEntry) :
    Text.trim entry.text = entry.address.text.toList := by
  refine Text.trim_pad entry.hbefore ?_ entry.hafter
  intro char hmem
  rw [Bool.eq_false_iff]
  intro hblank
  exact (isOutside_of_isWhitespace hblank).not_mem_text entry.address hmem

theorem comma_not_mem_listEntry (entry : ListEntry) : ',' ∉ entry.text := by
  have hcomma : Text.isWhitespace ',' = false := by decide
  have hblank : ∀ chars : List Char, (∀ char ∈ chars, Text.isWhitespace char = true) →
      ',' ∉ chars := by
    intro chars hchars hmem
    rw [hchars ',' hmem] at hcomma
    contradiction
  simp [ListEntry.text, hblank entry.before entry.hbefore, hblank entry.after entry.hafter,
    isOutside_comma.not_mem_text entry.address]

/-- A list of documented addresses is cut into these addresses. -/
theorem splitAddresses_listText {entries : List ListEntry} (hentries : entries ≠ []) :
    splitAddresses (listText entries) = entries.map fun entry => entry.address.text := by
  have hcommas : ∀ text ∈ entries.map ListEntry.text, ',' ∉ text := by
    intro text hmem
    obtain ⟨entry, -, rfl⟩ := List.mem_map.mp hmem
    exact comma_not_mem_listEntry entry
  have hsome : entries.map ListEntry.text ≠ [] := by simpa using hentries
  rw [splitAddresses, listText, String.toList_ofList, List.splitOn_intercalate ',' hcommas hsome,
    List.map_map]
  apply List.map_congr_left
  intro entry _
  rw [Function.comp_apply, trim_listEntry, String.ofList_toList]

/-! ## Sessions with the servers of a list -/

variable {δ : Type} {codec : Codec δ} {network : Network}

/-- A server list puts a documented address at the turn of the next session. -/
structure AtTurn (manager : TranscriptionManager δ) (configOverride : Option TranscriptionConfig)
    (servers : String) (address : Address) : Prop where
  accepts : AcceptsServers servers (configOverride.getD manager.config)
  turn : (splitAddresses servers)[manager.nextServerIndex % (splitAddresses servers).length]? =
    some address.text

/-- Of a list of documented addresses each has its turn. -/
theorem atTurn_listText {manager : TranscriptionManager δ}
    {configOverride : Option TranscriptionConfig} {entries : List ListEntry} {entry : ListEntry}
    (haccepts : AcceptsServers (listText entries) (configOverride.getD manager.config))
    (hentry : entries[manager.nextServerIndex % entries.length]? = some entry) :
    AtTurn manager configOverride (listText entries) entry.address := by
  have hsome : entries ≠ [] := by
    rintro rfl
    simp at hentry
  refine ⟨haccepts, ?_⟩
  rw [splitAddresses_listText hsome, List.length_map, List.getElem?_map, hentry, Option.map_some]

/-- An address serves: the synchronous client gets to an attempt to connect where the
asynchronous one does, and if there is a server, then whatever accepted list names it, there
is a session after a start at its turn. -/
structure ServesAddress (codec : Codec δ) (network : Network) (address : Address) : Prop where
  attempts : ∀ lookupHost, AsyncAttempts lookupHost address.text →
    SyncAttempts network address.text
  yields : ∀ (manager : TranscriptionManager δ) (configOverride : Option TranscriptionConfig)
    (servers : String) (env : Environment) (lookupHost : LookupHost)
    (sessionId endpointId : UInt64),
    AtTurn manager configOverride servers address → env.network = network →
    env.sessionDecoder = .ok () →
    ServerUp network lookupHost (configOverride.getD manager.config).connectTimeout address.text →
    (manager.startSession codec sessionId endpointId configOverride env).1.hasSession
      sessionId endpointId = true

/-- If there is a server at the address whose turn it is, a start creates a session exactly
if its host is an IP literal. -/
theorem hasSession_atTurn_iff (hparse : network.parse = SocketAddr.fromStr)
    {manager : TranscriptionManager δ} {configOverride : Option TranscriptionConfig}
    {servers : String} {address : Address} {env : Environment} {lookupHost : LookupHost}
    (hturn : AtTurn manager configOverride servers address) (hnetwork : env.network = network)
    (hdecoder : env.sessionDecoder = .ok ())
    (hup : ServerUp network lookupHost (configOverride.getD manager.config).connectTimeout
      address.text) (sessionId endpointId : UInt64) :
    (manager.startSession codec sessionId endpointId configOverride env).1.hasSession
        sessionId endpointId = true ↔
      manager.hasSession sessionId endpointId = true ∨ IsIpLiteral address.host.text := by
  have hconfig := hturn.accepts.config_eq
  have hcreatable : Creatable (configOverride.getD manager.config) manager.nextServerIndex env ↔
      IsIpLiteral address.host.text := by
    rw [← reachable_text_iff hparse address hup, hconfig, Creatable]
    simp [TranscriptionConfig.withServers, hturn.turn, hnetwork, hdecoder]
  rw [TranscriptionManager.hasSession_startSession, TranscriptionManager.startSession_eq_ok_iff,
    hcreatable]

/-- An address of the documented form serves exactly if its host is an IP literal. -/
theorem servesAddress_iff (codec : Codec δ) (hparse : network.parse = SocketAddr.fromStr)
    (address : Address) :
    ServesAddress codec network address ↔ IsIpLiteral address.host.text := by
  rw [← syncAttempts_text_iff hparse address]
  constructor
  · intro hserves
    exact hserves.attempts (fun _ _ => .ok [.v4 0 0]) (asyncAttempts_text address rfl)
  · intro hsync
    refine ⟨fun _ _ => hsync, ?_⟩
    intro manager configOverride servers env lookupHost sessionId endpointId hturn hnetwork
      hdecoder hup
    rw [hasSession_atTurn_iff hparse hturn hnetwork hdecoder hup]
    exact .inr ((syncAttempts_text_iff hparse address).mp hsync)

/-- A network with the parser of the standard library, in which everything else succeeds. -/
def openNetwork : Network := { Environment.allSucceed.network with parse := SocketAddr.fromStr }

/-- `127.0.0.1:43007` -/
def loopback : Address where
  host := .ipv4 "127.0.0.1".toList (by decide)
  port := "43007".toList
  hport := ⟨by decide, List.all_eq_true.mp (by decide), by decide⟩

/-- `localhost:43007` -/
def localhost : Address where
  host := .dnsName "localhost".toList ⟨by decide, List.all_eq_true.mp (by decide)⟩
  port := "43007".toList
  hport := ⟨by decide, List.all_eq_true.mp (by decide), by decide⟩

/-- `127.0.0.1:43007` with a blank on either side -/
def paddedLoopback : ListEntry :=
  ⟨[' '], loopback, [' '], List.all_eq_true.mp (by decide), List.all_eq_true.mp (by decide)⟩

/-- ` 127.0.0.1:43007 ,localhost:43007` -/
def loopbackFirst : String :=
  listText [paddedLoopback, ⟨[], localhost, [], nofun, nofun⟩]

/-- The address serves: where it is the first of a list, the first start has a session. -/
theorem servesAddress_iff_loopback :
    ServesAddress Codec.silent openNetwork loopback ∧
      ((TranscriptionManager.new (.withServers (splitAddresses loopbackFirst))).startSession
        Codec.silent 1 2 none
        { Environment.allSucceed with network := openNetwork }).1.hasSession 1 2 = true := by
  have hliteral : IsIpLiteral loopback.host.text := .inl (by decide)
  have hserves : ServesAddress Codec.silent openNetwork loopback :=
    (servesAddress_iff Codec.silent rfl loopback).mpr hliteral
  refine ⟨hserves, ?_⟩
  have haccepts : AcceptsServers loopbackFirst (.withServers (splitAddresses loopbackFirst)) :=
    .commandLine ⟨true, "simul-streaming", loopbackFirst, none, none, none⟩ rfl
      (by decide) (by decide) rfl
  have hturn : AtTurn
      (TranscriptionManager.new (.withServers (splitAddresses loopbackFirst)) :
        TranscriptionManager Unit) none loopbackFirst paddedLoopback.address :=
    atTurn_listText haccepts rfl
  obtain ⟨socketAddr, hparse⟩ := (fromStr_text_iff loopback).mpr hliteral
  have hresolved : toSocketAddrs (fun _ _ => .error "no name service") loopback.text =
      .ok [socketAddr] := by
    rw [toSocketAddrs, hparse]
  have hup : ServerUp openNetwork (fun _ _ => .error "no name service") 10000 loopback.text :=
    ⟨⟨[socketAddr], hresolved, socketAddr, List.mem_singleton_self _, rfl⟩, rfl, rfl, rfl⟩
  exact hserves.yields _ none loopbackFirst _ _ 1 2 hturn rfl rfl hup

/-- The default of the command line does not serve, even if its name is known. -/
theorem localhost_not_serves : ¬ ServesAddress Codec.silent openNetwork localhost := by
  intro hserves
  have hasync : AsyncAttempts (fun _ _ => .ok [.v4 0x7F000001#32 43007]) localhost.text :=
    asyncAttempts_text localhost rfl
  obtain ⟨socketAddr, hparse⟩ := hserves.attempts _ hasync
  have hname : Reader.whole readSocketAddr (localhost.host.text ++ ':' :: localhost.port) =
      none := by
    decide
  rw [openNetwork, fromStr_eq_ok_iff, Address.text, String.toList_ofList, hname] at hparse
  contradiction

end Grpc
end MediaServer
