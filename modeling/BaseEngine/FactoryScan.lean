import BaseEngine.Lib.Tiling
import BaseEngine.Discovery

/-!
# The ranges of a factory scan

The scan asks for `[cursor, cursor + chunk - 1]`, cut at the last block, and
goes on after it. The sum is not checked. Where the last chunk would end past
`u64`, were it not cut, the scan overflows on it (`scanLoop_overflows`). This is
all that can go wrong, for any answers of the provider (`scanLoop_tiles`).
-/

namespace BaseEngine.Discovery

open Machine Tiling

/-- The end of the last chunk, were it not cut, and one more. -/
def scanEnd (chunk first last : Nat) : Nat := first + ((last - first) / chunk + 1) * chunk

theorem add_le_scanEnd (chunk first last : Nat) : first + chunk ≤ scanEnd chunk first last := by
  rw [scanEnd, Nat.add_mul, Nat.one_mul]
  omega

theorem scanEnd_of_lt {chunk first last : Nat} (hle : first ≤ last) (h : last < first + chunk) :
    scanEnd chunk first last = first + chunk := by
  rw [scanEnd, Nat.div_eq_of_lt (by omega), Nat.zero_add, Nat.one_mul]

/-- One chunk further, the scan ends where it did. -/
theorem scanEnd_add {chunk first last : Nat} (hchunk : 0 < chunk) (h : first + chunk ≤ last) :
    scanEnd chunk (first + chunk) last = scanEnd chunk first last := by
  have hdiv : (last - first) / chunk = (last - (first + chunk)) / chunk + 1 := by
    rw [← Nat.sub_sub, Nat.div_eq_sub_div hchunk (by omega)]
  rw [scanEnd, scanEnd, hdiv]
  generalize (last - (first + chunk)) / chunk = n
  rw [Nat.add_mul (n + 1), Nat.one_mul]
  omega

/-! ## One turn -/

section Loop

variable {Pool : Type} {getLogs : Nat → Nat → Except ErrorChain (List RpcLog)}
  {decode : RpcLog → Option Pool} {version : String} {chunk cursor last turns : Nat}

/-- The last block of the chunk at the cursor. -/
def chunkEnd (chunk cursor last : Nat) : Nat := min (cursor + chunk - 1) last

theorem chunkEnd_bounds (hchunk : 0 < chunk) (hle : cursor ≤ last) :
    cursor ≤ chunkEnd chunk cursor last ∧ chunkEnd chunk cursor last < cursor + chunk
      ∧ chunkEnd chunk cursor last ≤ last := by
  rw [chunkEnd]
  omega

/-- A chunk before the last one is a whole one. -/
theorem chunkEnd_whole (hchunk : 0 < chunk) (h : cursor + chunk ≤ last) :
    chunkEnd chunk cursor last + 1 = cursor + chunk := by
  rw [chunkEnd]
  omega

theorem scanLoop_past (h : last < cursor) :
    scanLoop getLogs decode version chunk last (turns + 1) cursor = ([], .ok []) := by
  rw [scanLoop, if_neg (Nat.not_le_of_lt h)]

theorem scanLoop_overflow (hle : cursor ≤ last) (h : 2 ^ 64 ≤ cursor + chunk) :
    scanLoop getLogs decode version chunk last (turns + 1) cursor = ([], .panic .overflow) := by
  rw [scanLoop, if_pos hle, if_neg (Nat.not_lt_of_le h)]

theorem scanLoop_failed (hle : cursor ≤ last) (h : cursor + chunk < 2 ^ 64) {error : ErrorChain}
    (hlogs : getLogs cursor (chunkEnd chunk cursor last) = .error error) :
    ∃ chain, scanLoop getLogs decode version chunk last (turns + 1) cursor
      = ([(cursor, chunkEnd chunk cursor last)], .error chain) := by
  rw [scanLoop, if_pos hle, if_pos h]
  dsimp only
  rw [← chunkEnd, hlogs]
  exact ⟨_, rfl⟩

/-- A chunk that was answered is followed by the rest of the scan; the cursor
does not saturate. -/
theorem scanLoop_answered (hle : cursor ≤ last) (h : cursor + chunk < 2 ^ 64)
    (hchunk : 0 < chunk) {logs : List RpcLog}
    (hlogs : getLogs cursor (chunkEnd chunk cursor last) = .ok logs) :
    scanLoop getLogs decode version chunk last (turns + 1) cursor
      = ((cursor, chunkEnd chunk cursor last)
          :: (scanLoop getLogs decode version chunk last turns
            (chunkEnd chunk cursor last + 1)).1,
        (scanLoop getLogs decode version chunk last turns
            (chunkEnd chunk cursor last + 1)).2.bind
          fun pools => .ok (logs.filterMap decode ++ pools)) := by
  have hnext : saturatingAdd 64 (chunkEnd chunk cursor last) 1
      = chunkEnd chunk cursor last + 1 := by
    rw [saturatingAdd, chunkEnd]
    omega
  rw [scanLoop, if_pos hle, if_pos h]
  dsimp only
  rw [← chunkEnd, hlogs, hnext]
  rfl

/-! ## The whole scan -/

/-- The scan ended well and its ranges tile `[first, last]`, or a request failed
and its ranges are the start of such a tiling. -/
def ScanTiles (chunk first last : Nat)
    (scan : List (Nat × Nat) × Outcome ErrorChain (List Pool)) : Prop :=
  (∃ pools, scan.2 = .ok pools ∧ Tiles chunk last first scan.1)
    ∨ ∃ error rest, scan.2 = .error error ∧ Tiles chunk last first (scan.1 ++ rest)

theorem ScanTiles.cons {next : Nat} (logs : List Pool)
    {scan : List (Nat × Nat) × Outcome ErrorChain (List Pool)}
    (hle : cursor ≤ next) (hlt : next < cursor + chunk) (hlast : next ≤ last)
    (h : ScanTiles chunk (next + 1) last scan) :
    ScanTiles chunk cursor last
      ((cursor, next) :: scan.1, scan.2.bind fun pools => .ok (logs ++ pools)) := by
  rcases h with ⟨pools, hpools, htiles⟩ | ⟨error, rest, herror, htiles⟩
  · exact .inl ⟨logs ++ pools, by rw [hpools]; rfl, .step hle hlt hlast htiles⟩
  · exact .inr ⟨error, rest, by rw [herror]; rfl, .step hle hlt hlast htiles⟩

/-- With enough turns the scan ends, and it asks for every block once. -/
theorem scanLoop_tiles (hchunk : 0 < chunk) (hcursor : cursor ≤ last + 1)
    (hend : cursor ≤ last → scanEnd chunk cursor last < 2 ^ 64) :
    ∃ turns, ScanTiles chunk cursor last
      (scanLoop getLogs decode version chunk last turns cursor) := by
  induction hn : last + 1 - cursor using Nat.strongRecOn generalizing cursor with
  | ind n ih =>
      by_cases hle : cursor ≤ last
      · have hfits : cursor + chunk < 2 ^ 64 :=
          Nat.lt_of_le_of_lt (add_le_scanEnd chunk cursor last) (hend hle)
        obtain ⟨hge, hlt, hlast⟩ := chunkEnd_bounds hchunk hle
        have hnext : chunkEnd chunk cursor last + 1 ≤ last →
            scanEnd chunk (chunkEnd chunk cursor last + 1) last < 2 ^ 64 := by
          intro hmore
          have hwhole : cursor + chunk ≤ last := by
            rw [chunkEnd] at hmore
            omega
          rw [chunkEnd_whole hchunk hwhole, scanEnd_add hchunk hwhole]
          exact hend hle
        cases hlogs : getLogs cursor (chunkEnd chunk cursor last) with
        | error error =>
            obtain ⟨rest, hrest⟩ := Tiles.exists_tiles hchunk (Nat.succ_le_succ hlast)
            obtain ⟨chain, hfailed⟩ := @scanLoop_failed Pool getLogs decode version chunk cursor
              last 0 hle hfits error hlogs
            refine ⟨1, .inr ⟨chain, rest, ?_⟩⟩
            rw [hfailed]
            exact ⟨rfl, .step hge hlt hlast hrest⟩
        | ok logs =>
            obtain ⟨turns, hturns⟩ := ih _ (by omega) (Nat.succ_le_succ hlast) hnext rfl
            refine ⟨turns + 1, ?_⟩
            rw [scanLoop_answered hle hfits hchunk hlogs]
            exact hturns.cons _ hge hlt hlast
      · refine ⟨1, .inl ⟨[], ?_⟩⟩
        rw [scanLoop_past (Nat.lt_of_not_le hle)]
        exact ⟨rfl, .done (by omega)⟩

/-- A scan whose last chunk ends past `u64` overflows, or is still running. -/
theorem scanLoop_overflows (hchunk : 0 < chunk)
    (hlogs : ∀ first last, ∃ logs, getLogs first last = .ok logs) (hle : cursor ≤ last)
    (hend : 2 ^ 64 ≤ scanEnd chunk cursor last) (turns : Nat) :
    (scanLoop getLogs decode version chunk last turns cursor).2 = .panic .overflow
      ∨ (scanLoop getLogs decode version chunk last turns cursor).2 = .running := by
  induction turns generalizing cursor with
  | zero => exact .inr rfl
  | succ turns ih =>
      by_cases hfits : cursor + chunk < 2 ^ 64
      · have hmore : cursor + chunk ≤ last := by
          by_contra hshort
          rw [scanEnd_of_lt hle (by omega)] at hend
          omega
        obtain ⟨logs, hlogs⟩ := hlogs cursor (chunkEnd chunk cursor last)
        rw [scanLoop_answered hle hfits hchunk hlogs, chunkEnd_whole hchunk hmore]
        rcases ih hmore (by rwa [scanEnd_add hchunk hmore]) with hpanic | hrunning
        · exact .inl (by rw [hpanic]; rfl)
        · exact .inr (by rw [hrunning]; rfl)
      · rw [scanLoop_overflow hle (Nat.not_lt.mp hfits)]
        exact .inl rfl

end Loop

/-! ## Both scans -/

/-- The scan ended without an overflow and worked through its range once, or
a request failed and it had only worked through the start of the range. -/
def ScansOnce {Pool : Type} (chunk first last : Nat)
    (scan : List (Nat × Nat) × Outcome ErrorChain (List Pool)) : Prop :=
  (∃ pools, scan.2 = .ok pools ∧ Covers chunk first last scan.1)
    ∨ ∃ error rest, scan.2 = .error error ∧ Covers chunk first last (scan.1 ++ rest)

theorem ScanTiles.scansOnce {Pool : Type} {chunk first last : Nat}
    {scan : List (Nat × Nat) × Outcome ErrorChain (List Pool)}
    (h : ScanTiles chunk first last scan) : ScansOnce chunk first last scan := by
  rcases h with ⟨pools, hpools, htiles⟩ | ⟨error, rest, herror, htiles⟩
  · exact .inl ⟨pools, hpools, htiles.covers⟩
  · exact .inr ⟨error, rest, herror, htiles.covers⟩

theorem ScansOnce.not_overflows {Pool : Type} {chunk first last : Nat}
    {scan : List (Nat × Nat) × Outcome ErrorChain (List Pool)}
    (h : ScansOnce chunk first last scan) :
    ¬ (scan.2 = .panic .overflow ∨ scan.2 = .running) := by
  rcases h with ⟨pools, hscan, -⟩ | ⟨error, rest, hscan, -⟩
  · simp [hscan]
  · simp [hscan]

variable (codec : DiscoveryCodec) (factory : FactoryConfig) (factoryAddress : EvmAddress)
  (fromBlock toBlock : Nat)

/-- The scans of both kinds, whatever the provider answers. -/
def ScanExact : Prop :=
  ∀ provider : DiscoveryProvider,
    (∃ turns, ScansOnce factory.logChunkSizeOrDefault fromBlock toBlock
      (v2Scan codec provider factory factoryAddress fromBlock toBlock turns))
    ∧ ∃ turns, ScansOnce factory.logChunkSizeOrDefault fromBlock toBlock
      (v3Scan codec provider factory factoryAddress fromBlock toBlock turns)

/-- A provider without a pool. -/
def quietProvider : DiscoveryProvider :=
  { blockNumber := .ok 0, getLogs := fun _ _ _ _ => .ok [], aggregate3 := fun _ _ => .ok [] }

variable {fromBlock toBlock}

/-- **When the range is scanned once.** A scan ends without an overflow and
asks for every block of its range in one range of at most a chunk, exactly
when its last chunk, before it is cut, ends below `u64`. -/
theorem scanExact_iff (hle : fromBlock ≤ toBlock) :
    ScanExact codec factory factoryAddress fromBlock toBlock
      ↔ scanEnd factory.logChunkSizeOrDefault fromBlock toBlock < 2 ^ 64 := by
  have hchunk := factory.logChunkSizeOrDefault_pos
  constructor
  · intro hexact
    by_contra hend
    obtain ⟨turns, hturns⟩ := (hexact quietProvider).1
    refine hturns.not_overflows ?_
    exact scanLoop_overflows hchunk (fun _ _ => ⟨[], rfl⟩) hle (Nat.not_lt.mp hend) turns
  · intro hend provider
    obtain ⟨turns, hturns⟩ := scanLoop_tiles hchunk (Nat.le_succ_of_le hle) fun _ => hend
    obtain ⟨turns', hturns'⟩ := scanLoop_tiles hchunk (Nat.le_succ_of_le hle) fun _ => hend
    exact ⟨⟨turns, hturns.scansOnce⟩, turns', hturns'.scansOnce⟩

/-- The V2 factory of Base. -/
def uniswapV2Factory : FactoryConfig :=
  { address := "0x8909Dc15e40173Ff4699343b6eB8132c65e18eC6", kind := .uniswapV2,
    protocol := .uniswapV2, exchange := none, deploymentBlock := 6601915,
    defaultV2FeeBps := some 30, logChunkSize := none }

/-- A codec that decodes nothing. -/
def deafCodec : DiscoveryCodec :=
  { parseAddress := fun _ => .error "not an address", pairCreated := fun _ => none,
    poolCreated := fun _ => none, getReserves := fun _ => none, slot0 := fun _ => none,
    liquidity := fun _ => none, aggregate3 := fun _ => .error [] }

theorem uniswapV2Factory_scanExact :
    uniswapV2Factory.deploymentBlock ≤ 30000000
      ∧ ScanExact deafCodec uniswapV2Factory 0 uniswapV2Factory.deploymentBlock 30000000 := by
  refine ⟨by decide, (scanExact_iff _ _ _ (by decide)).mpr ?_⟩
  decide

/-- A chunk as large as `u64` allows overflows on the first turn. -/
theorem largestChunk_overflows :
    (v2Scan deafCodec quietProvider { uniswapV2Factory with logChunkSize := some (2 ^ 64 - 1) } 0
        uniswapV2Factory.deploymentBlock 30000000 1).2 = .panic .overflow := by
  decide

end BaseEngine.Discovery
