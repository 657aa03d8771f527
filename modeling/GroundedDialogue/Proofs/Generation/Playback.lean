import GroundedDialogue.Generation.Scripted
import GroundedDialogue.Proofs.Generation.Recorded

/-!
# Playing back a script

What the token loop makes of a script can be told from the pieces alone. A reply ends in front of a
piece, or with it, for the first reason that there is at all (`Playback.First`), and it is made of the
pieces up to there (`Playback.reply`). `playback` says that the loop gives this reply.

The proof follows the flow of the script, which no scanner has any part in (`flow_script`), and then
hears it: a chunk ends the reply exactly if there is a marker to end it there (`stopsAt_iff_ends`).
-/

namespace GroundedDialogue

/-- A budget is what the ceiling allows of a request, or all that it allows if nothing was asked for. -/
theorem Budget.le_clamp_iff {requested ceiling n : Int} :
    n ≤ clamp requested ceiling ↔ n ≤ ceiling ∧ (0 < requested → n ≤ requested) := by
  unfold clamp
  by_cases hrequested : requested ≤ 0
  · rw [if_pos hrequested]
    omega
  · rw [if_neg hrequested]
    omega

namespace TokenLoop

/-- A script, and how much of it is asked for by whom: a scanner with the usual markers that looks for
them, or does not. -/
structure Playback where
  pieces : List Text
  /-- Decode calls fail from this one on, counted from one. -/
  failDecodeAt : Option Int
  requested : Int
  ceiling : Int
  scanning : Bool

namespace Playback

variable (p : Playback)

def generator : ScriptedGenerator :=
  { ScriptedGenerator.ofPieces p.pieces with failDecodeAt := p.failDecodeAt }

def scanner (kept : Text) : StopScanner := ⟨StopMarker.defaults, p.scanning, kept⟩

def budget : Int := Budget.clamp p.requested p.ceiling

/-- The piece at a position; there is nothing after the last one. -/
def piece (i : Nat) : Text := p.pieces.getD i []

def part (i : Nat) : Text := if p.scanning then StopMarker.cut StopMarker.defaults (p.piece i) else p.piece i

/-- The decode call in front of a piece fails. -/
def Fails (i : Nat) : Prop := ∃ call, p.failDecodeAt = some call ∧ call ≤ i + 1

/-- A piece is left out if it starts with a line feed and nothing was kept of those before it. -/
def Dropped (i : Nat) : Prop :=
  p.scanning = true ∧ (p.piece i).head? = some Rune.newline ∧ ∀ j < i, p.part j = []

instance (i : Nat) : Decidable (p.Dropped i) := inferInstanceAs (Decidable (_ ∧ _ ∧ ∀ j < i, p.part j = []))

/-- There is a reason for the reply to end in front of a piece, or with it. -/
inductive Ends (i : Nat) : StopReason → Prop where
  | maxTokens (spent : p.budget ≤ i) : Ends i .maxTokens
  | decodeError (left : i < p.budget) (fails : p.Fails i) : Ends i .decodeError
  | endOfSequence (left : i < p.budget) (decodes : ¬p.Fails i) (spoken : p.pieces.length ≤ i) :
    Ends i .endOfSequence
  | stopMarker (left : i < p.budget) (decodes : ¬p.Fails i) (more : i < p.pieces.length)
    (scanning : p.scanning = true) (marked : StopMarker.Contains StopMarker.defaults (p.piece i))
    (kept : ¬p.Dropped i) : Ends i .stopMarker

/-- The first reason for the reply to end. -/
def First (i : Nat) (reason : StopReason) : Prop := p.Ends i reason ∧ ∀ j < i, ∀ cause, ¬p.Ends j cause

def samples : StopReason → Nat
  | .endOfSequence | .stopMarker => 1
  | .maxTokens | .decodeError | .allocationError => 0

def text (count : Nat) : Text := (((List.range count).filter fun i => ¬p.Dropped i).map p.part).flatten

/-- The reply that ends at this piece for this reason. -/
def reply (i : Nat) (reason : StopReason) : Generation where
  text := p.text (i + samples reason)
  tokens := i + samples reason
  reason := reason
  error := if reason = .decodeError then some (Fault.scriptedDecode (i + 1)).message else none

/-! ## The reference -/

variable {p} {i : Nat}

theorem Ends.unique {reason cause : StopReason} (h : p.Ends i reason) (h' : p.Ends i cause) :
    reason = cause := by
  cases h with
  | maxTokens spent => cases h' <;> first | rfl | omega
  | decodeError left fails => cases h' <;> first | rfl | omega | contradiction
  | endOfSequence left decodes spoken => cases h' <;> first | rfl | omega | contradiction
  | stopMarker left decodes more => cases h' <;> first | rfl | omega | contradiction

theorem First.iff {reason : StopReason} (h : p.First i reason) (j : Nat) (cause : StopReason) :
    p.First j cause ↔ j = i ∧ cause = reason := by
  constructor
  · intro h'
    rcases Nat.lt_trichotomy j i with hlt | rfl | hgt
    · exact absurd h'.1 (h.2 j hlt cause)
    · exact ⟨rfl, h'.1.unique h.1⟩
    · exact absurd h.1 (h'.2 i hgt reason)
  · rintro ⟨rfl, rfl⟩
    exact h

/-- A turn takes a piece. -/
def Speaks (p : Playback) (i : Nat) : Prop := i < p.budget ∧ ¬p.Fails i ∧ i < p.pieces.length

theorem Speaks.ends_iff {reason : StopReason} (h : p.Speaks i) :
    p.Ends i reason ↔ reason = .stopMarker ∧ p.scanning = true ∧
      StopMarker.Contains StopMarker.defaults (p.piece i) ∧ ¬p.Dropped i := by
  obtain ⟨left, decodes, more⟩ := h
  constructor
  · intro h
    cases h with
    | maxTokens => omega
    | decodeError => contradiction
    | endOfSequence => omega
    | stopMarker _ _ _ scanning marked kept => exact ⟨rfl, scanning, marked, kept⟩
  · rintro ⟨rfl, scanning, marked, kept⟩
    exact .stopMarker left decodes more scanning marked kept

theorem tokens_le {reason : StopReason} (h : p.Ends i reason) (hfirst : ∀ j < i, p.Speaks j) :
    ((i + samples reason : Nat) : Int) ≤ max p.budget 0 := by
  have hbefore : (i : Int) ≤ max p.budget 0 := by
    cases i with
    | zero => omega
    | succ i =>
      have hleft := (hfirst i (Nat.lt_succ_self i)).1
      omega
  cases h <;> simp only [samples] <;> omega

/-! ## The flow of a script -/

/-- What ends the flow when it is not a marker. -/
def cause (i : Nat) (reason : StopReason) : Except Fault StopReason :=
  if reason = .decodeError then .error (.scriptedDecode (i + 1)) else .ok reason

/-- The next decode call goes on in front of this piece. -/
structure Stands (p : Playback) (g : ScriptedGenerator) (handle : Option Unit) (i : Nat) : Prop where
  failDecodeAt : g.failDecodeAt = p.failDecodeAt
  sampleFault : g.sampleFault = none
  advance : ∀ batch, ∃ prompt seen, g.advance batch handle.isSome = ⟨p.pieces, i, i + 1, prompt, seen⟩

theorem stands_start (p : Playback) (prompt : Text) :
    p.Stands { p.generator with prompts := [prompt] } none 0 where
  failDecodeAt := rfl
  sampleFault := rfl
  advance _ := ⟨_, _, rfl⟩

theorem decode_of_stands {g : ScriptedGenerator} {handle : Option Unit} (h : p.Stands g handle i)
    (batch : List Token) :
    ∃ g' prompt seen, TextGenerator.decode g batch handle =
        (if p.failDecodeAt.any fun call => call ≤ ((i + 1 : Nat) : Int) then .error (.scriptedDecode (i + 1))
          else .ok (), g') ∧
      g'.failDecodeAt = p.failDecodeAt ∧ g'.sampleFault = none ∧
      g'.cursor = some ⟨p.pieces, i, i + 1, prompt, seen⟩ := by
  obtain ⟨prompt, seen, hadvance⟩ := h.advance batch
  refine ⟨{ g with cursor := some ⟨p.pieces, i, i + 1, prompt, seen⟩ }, prompt, seen, ?_, h.failDecodeAt,
    h.sampleFault, rfl⟩
  rw [← h.failDecodeAt]
  show ScriptedGenerator.decode g batch handle = _
  rw [ScriptedGenerator.decode, hadvance]

theorem any_failDecodeAt_iff :
    (p.failDecodeAt.any fun call => call ≤ ((i + 1 : Nat) : Int)) = true ↔ p.Fails i := by
  simp [Option.any_eq_true, Fails]

theorem sample_of_cursor {g : ScriptedGenerator} {c : ScriptCursor} (hfault : g.sampleFault = none)
    (hcursor : g.cursor = some c) : TextGenerator.sample g () = ScriptedGenerator.sample.next g c := by
  show ScriptedGenerator.sample g () = _
  rw [ScriptedGenerator.sample, hcursor, hfault]

theorem turn_of_fails {g : ScriptedGenerator} {handle : Option Unit} (h : p.Stands g handle i)
    (fails : p.Fails i) (batch : List Token) :
    ∃ g', turn g handle batch = .ends g' handle 0 (.error (.scriptedDecode (i + 1))) := by
  obtain ⟨g', prompt, seen, hdecode, -⟩ := decode_of_stands h batch
  rw [turn, hdecode, if_pos (any_failDecodeAt_iff.mpr fails)]
  exact ⟨g', rfl⟩

theorem turn_of_spoken {g : ScriptedGenerator} {handle : Option Unit} (h : p.Stands g handle i)
    (decodes : ¬p.Fails i) (spoken : p.pieces.length ≤ i) (batch : List Token) :
    ∃ g', turn g handle batch = .ends g' (some ()) 1 (.ok .endOfSequence) := by
  obtain ⟨g', prompt, seen, hdecode, -, hsample, hcursor⟩ := decode_of_stands h batch
  rw [turn, hdecode, if_neg (mt any_failDecodeAt_iff.mp decodes)]
  dsimp only
  rw [sample_of_cursor hsample hcursor, ScriptedGenerator.sample.next, List.getElem?_eq_none spoken]
  exact ⟨g', rfl⟩

theorem turn_of_speaks {g : ScriptedGenerator} {handle : Option Unit} (h : p.Stands g handle i)
    (decodes : ¬p.Fails i) (more : i < p.pieces.length) (batch : List Token) :
    ∃ g', turn g handle batch = .speaks g' () (.words (p.piece i)) (p.piece i) ∧
      p.Stands g' (some ()) (i + 1) := by
  obtain ⟨g', prompt, seen, hdecode, hfail, hsample, hcursor⟩ := decode_of_stands h batch
  have hpiece : p.pieces[i]? = some (p.piece i) := by simp [piece, more]
  rw [turn, hdecode, if_neg (mt any_failDecodeAt_iff.mp decodes)]
  dsimp only
  rw [sample_of_cursor hsample hcursor, ScriptedGenerator.sample.next, hpiece]
  exact ⟨_, rfl, hfail, hsample, fun batch => ⟨_, _, rfl⟩⟩

/-- A script is said piece by piece, up to what ends it without a marker. -/
theorem flow_script {g : ScriptedGenerator} {handle : Option Unit} {batch : List Token} {budget : Nat}
    (h : p.Stands g handle i) (hbudget : i + budget = max p.budget.toNat i) :
    ∃ n reason, (∀ j, i ≤ j → j < i + n → p.Speaks j) ∧ p.Ends (i + n) reason ∧ reason ≠ .stopMarker ∧
      flow g handle batch budget = ⟨(p.pieces.drop i).take n, samples reason, cause (i + n) reason⟩ := by
  -- a turn that takes a piece moves the position on and uses up the budget, and keeps their sum
  induction budget generalizing g handle batch i with
  | zero =>
    refine ⟨0, .maxTokens, fun j hle hlt => by omega, .maxTokens (by omega), by decide, rfl⟩
  | succ budget ih =>
    rw [flow]
    by_cases fails : p.Fails i
    · obtain ⟨g', hturn⟩ := turn_of_fails h fails batch
      rw [hturn]
      exact ⟨0, .decodeError, fun j hle hlt => by omega, .decodeError (by omega) fails, by decide, rfl⟩
    · rcases Nat.lt_or_ge i p.pieces.length with more | spoken
      · obtain ⟨g', hturn, hstands⟩ := turn_of_speaks h fails more batch
        obtain ⟨n, reason, hspeaks, hends, hreason, hflow⟩ := ih hstands (by omega)
        have hnext : i + 1 + n = i + (n + 1) := by omega
        rw [hnext] at hspeaks hends hflow
        refine ⟨n + 1, reason, ?_, hends, hreason, ?_⟩
        · intro j hle hlt
          rcases Nat.eq_or_lt_of_le hle with rfl | hgt
          · exact ⟨by omega, fails, more⟩
          · exact hspeaks j hgt hlt
        · rw [hturn]
          dsimp only
          rw [hflow, List.drop_eq_getElem_cons more, List.take_succ_cons]
          simp [piece, more]
      · obtain ⟨g', hturn⟩ := turn_of_spoken h fails spoken batch
        rw [hturn]
        exact ⟨0, .endOfSequence, fun j hle hlt => by omega, .endOfSequence (by omega) fails spoken,
          by decide, rfl⟩

/-! ## Hearing a script -/

theorem part_eq (kept : Text) (i : Nat) : p.part i = (p.scanner kept).part (p.piece i) := rfl

theorem earliest_of_newline (hhead : (p.piece i).head? = some Rune.newline) :
    StopMarker.earliest StopMarker.defaults (p.piece i) = 0 := by
  obtain ⟨rest, hrest⟩ := List.head?_eq_some_iff.mp hhead
  have hstart : [Rune.newline] <+: p.piece i := ⟨rest, hrest.symm⟩
  exact StopMarker.earliest_eq_zero_of_isPrefix (by decide) (List.cons_ne_nil _ _) hstart

theorem part_of_dropped (h : p.Dropped i) : p.part i = [] := by
  rw [part, if_pos h.1, StopMarker.cut, earliest_of_newline h.2.1, List.take_zero]

theorem text_eq_nil_iff : p.text i = [] ↔ ∀ j < i, p.part j = [] := by
  simp only [text, List.flatten_eq_nil_iff, List.mem_map, List.mem_filter, List.mem_range,
    decide_eq_true_eq, forall_exists_index, and_imp]
  constructor
  · intro h j hj
    by_cases hdropped : p.Dropped j
    · exact part_of_dropped hdropped
    · exact h _ j hj hdropped rfl
  · rintro h _ j hj - rfl
    exact h j hj

theorem text_eq (p : Playback) (kept : Text) (count : Nat) :
    p.text count = ((p.pieces.take count).map (p.scanner kept).part).flatten := by
  induction count with
  | zero => rfl
  | succ count ih =>
    rw [text] at ih
    rw [text, List.range_succ, List.filter_append, List.map_append, List.flatten_append, ih,
      List.take_add_one, List.map_append, List.flatten_append]
    congr 1
    have hlast : (([count].filter fun i => ¬p.Dropped i).map p.part).flatten = p.part count := by
      by_cases hdropped : p.Dropped count
      · simp [hdropped, part_of_dropped hdropped]
      · simp [hdropped]
    rw [hlast, part_eq kept, piece, List.getD_eq_getElem?_getD]
    cases p.pieces[count]? with
    | some piece => simp
    | none => simp [StopScanner.part]

theorem stopsAt_iff_ends {n : Nat} (hspeaks : ∀ j < n, p.Speaks j) (hi : i < n) :
    (p.scanner []).stopsAt (p.pieces.take n) i = true ↔ p.Ends i .stopMarker := by
  have hpiece : (p.pieces.take n)[i]? = some (p.piece i) := by
    have hlt := (hspeaks i hi).2.2
    simp [piece, hi, hlt]
  have htext : ((p.pieces.take i).map (p.scanner []).part).flatten = [] ↔ ∀ j < i, p.part j = [] := by
    rw [← text_eq, text_eq_nil_iff]
  rw [(hspeaks i hi).ends_iff, StopScanner.stopsAt_iff]
  simp only [hpiece, Option.some.injEq, exists_eq_left', List.take_take, Nat.min_eq_left hi.le]
  constructor
  -- a piece that starts with a line feed starts with a marker, so that is no condition of its own
  · rintro ⟨scanning, marked, kept⟩
    refine ⟨trivial, scanning, marked, fun hdropped => kept ?_⟩
    exact ⟨earliest_of_newline hdropped.2.1, htext.mpr hdropped.2.2, hdropped.2.1⟩
  · rintro ⟨-, scanning, marked, kept⟩
    refine ⟨scanning, marked, fun hdrops => kept ?_⟩
    exact ⟨scanning, hdrops.2.2, htext.mp hdrops.2.1⟩

theorem flowFor_script (p : Playback) (prompt : Text) :
    ∃ n reason, (∀ j < n, p.Speaks j) ∧ p.Ends n reason ∧ reason ≠ .stopMarker ∧
      flowFor p.generator prompt p.requested p.ceiling
        = .ok ⟨p.pieces.take n, samples reason, cause n reason⟩ := by
  have hbudget : 0 + p.budget.toNat = max p.budget.toNat 0 := by omega
  obtain ⟨n, reason, hspeaks, hends, hreason, hflow⟩ :=
    @flow_script p 0 _ none [.words prompt] _ (stands_start p prompt) hbudget
  rw [Nat.zero_add, List.drop_zero] at *
  exact ⟨n, reason, fun j hj => hspeaks j (Nat.zero_le j) (by omega), hends, hreason,
    congrArg Except.ok hflow⟩

theorem reply_of_ends {reason : StopReason} (h : p.Ends i reason) {s : StopScanner}
    (htext : s.text = p.text (i + samples reason)) :
    Hearing.reply ⟨i + samples reason, s, cause i reason⟩ = .ok (p.reply i reason) := by
  cases h <;> simp [Hearing.reply, Ending.generation, cause, reply, htext, Fault.kind]

theorem text_after (p : Playback) (chunks : List Text) :
    ((p.scanner []).after chunks).text = (chunks.map (p.scanner []).part).flatten := by
  rw [StopScanner.after_eq]
  rfl

theorem take_samples {reason : StopReason} (h : p.Ends i reason) (hreason : reason ≠ .stopMarker) :
    p.pieces.take (i + samples reason) = p.pieces.take i := by
  cases h with
  | maxTokens => rfl
  | decodeError => rfl
  | endOfSequence left decodes spoken =>
    rw [List.take_of_length_le spoken, List.take_of_length_le (Nat.le_add_right_of_le spoken)]
  | stopMarker => exact absurd rfl hreason

theorem result_of_first (p : Playback) (prompt kept : Text) :
    ∃ i reason, p.First i reason ∧ (∀ j < i, p.Speaks j) ∧
      (generate p.generator prompt p.requested p.ceiling (p.scanner kept)).result
        = .ok (p.reply i reason) := by
  obtain ⟨n, last, hspeaks, hends, hlast, hflow⟩ := flowFor_script p prompt
  rw [generate_result, hflow]
  show ∃ i reason, p.First i reason ∧ _ ∧ Hearing.reply (Flow.hear _ (p.scanner [])) = _
  rw [Flow.hear]
  dsimp only
  -- a turn that takes a piece ends the reply if there is a marker to end it
  have hends_iff : ∀ j < n, ∀ reason, p.Ends j reason →
      (p.scanner []).stopsAt (p.pieces.take n) j = true := by
    intro j hj reason hreason
    have hmarker := ((hspeaks j hj).ends_iff.mp hreason).1
    exact (stopsAt_iff_ends hspeaks hj).mpr (hmarker ▸ hreason)
  cases hstop : (p.scanner []).stop? (p.pieces.take n) with
  | some i =>
    obtain ⟨hat, hfirst⟩ := StopScanner.stop?_eq_some_iff.mp hstop
    obtain ⟨chunk, hchunk, -⟩ := StopScanner.stopsAt_iff.mp hat
    have hi : i < n := by
      have hlt := (List.getElem?_eq_some_iff.mp hchunk).1
      rw [List.length_take] at hlt
      omega
    have hmarker := (stopsAt_iff_ends hspeaks hi).mp hat
    refine ⟨i, .stopMarker, ⟨hmarker, fun j hj reason hreason => ?_⟩,
      fun j hj => hspeaks j (by omega), ?_⟩
    · have hstops := hends_iff j (by omega) reason hreason
      rw [hfirst j hj] at hstops
      contradiction
    · refine reply_of_ends hmarker ?_
      rw [text_after, List.take_take, Nat.min_eq_left hi, text_eq]
      rfl
  | none =>
    rw [StopScanner.stop?_eq_none_iff] at hstop
    have hlength : (p.pieces.take n).length = n := by
      rw [List.length_take]
      cases n with
      | zero => omega
      | succ n =>
        have hmore := (hspeaks n (Nat.lt_succ_self n)).2.2
        omega
    refine ⟨n, last, ⟨hends, fun j hj reason hreason => ?_⟩, hspeaks, ?_⟩
    · have hstops := hends_iff j hj reason hreason
      rw [hstop j] at hstops
      contradiction
    · rw [hlength]
      refine reply_of_ends hends ?_
      rw [text_after, text_eq, take_samples hends hlast]

theorem newline_notMem_text (scanning : p.scanning = true) (count : Nat) : Rune.newline ∉ p.text count := by
  intro hmem
  obtain ⟨added, hadded, hmem⟩ := List.mem_flatten.mp hmem
  obtain ⟨j, -, rfl⟩ := List.mem_map.mp hadded
  rw [part, if_pos scanning] at hmem
  obtain ⟨before, after, hsplit⟩ := List.append_of_mem hmem
  have hmarker : [Rune.newline] ∈ StopMarker.defaults := by decide
  refine StopMarker.not_isInfix_cut hmarker (List.cons_ne_nil _ _) (p.piece j) ?_
  exact ⟨before, after, by rw [hsplit, List.append_assoc, List.singleton_append]⟩

theorem text_of_not_scanning (scanning : p.scanning = false) (count : Nat) :
    p.text count = (p.pieces.take count).flatten := by
  have hpart : (p.scanner []).part = id := by
    funext piece
    simp [StopScanner.part, scanner, scanning]
  rw [text_eq p [], hpart, List.map_id]

/-- **The loop gives the reply that the script stands for.** -/
theorem playback (p : Playback) (prompt kept : Text) :
    ∃ i reason, (∀ j cause, p.First j cause ↔ j = i ∧ cause = reason) ∧
      (generate p.generator prompt p.requested p.ceiling (p.scanner kept)).result
        = .ok (p.reply i reason) ∧
      (generate (Recorded.mk p.generator []) prompt p.requested p.ceiling (p.scanner kept)).generator.calls.count
        (.sample true) = (p.reply i reason).tokens ∧
      ((p.reply i reason).tokens : Int) ≤ max p.budget 0 ∧
      ((p.reply i reason).error ≠ none ↔ reason = .decodeError) ∧
      (p.scanning = true → Rune.newline ∉ (p.reply i reason).text) ∧
      (p.scanning = false → reason ≠ .stopMarker ∧
        (p.reply i reason).text = (p.pieces.take (p.reply i reason).tokens).flatten) := by
  obtain ⟨i, reason, hfirst, hspeaks, hresult⟩ := result_of_first p prompt kept
  refine ⟨i, reason, hfirst.iff, hresult, ?_, tokens_le hfirst.1 hspeaks, ?_, ?_, ?_⟩
  · obtain ⟨calls, n, hrecord, hcalls, htokens⟩ :=
      generate_record (Recorded.mk p.generator []) prompt p.requested p.ceiling (p.scanner kept)
    rw [hrecord, htokens _ hresult]
    have hcount : (Call.tokenize prompt :: calls).count (.sample true) = n := by
      rw [List.count_cons_of_ne (by simp), hcalls.count]
    exact hcount
  · cases reason <;> simp [reply]
  · intro scanning
    exact newline_notMem_text scanning _
  · intro scanning
    refine ⟨?_, text_of_not_scanning scanning _⟩
    rintro rfl
    cases hfirst.1 with
    | stopMarker _ _ _ hscanning => simp [scanning] at hscanning

/-- A script that nothing stops is said up to the budget. -/
theorem tokens_of_long (hceiling : 0 ≤ p.ceiling) (hscanning : p.scanning = false)
    (hdecodes : p.failDecodeAt = none) (hlong : p.budget ≤ p.pieces.length) (prompt kept : Text) :
    ∃ r, (generate p.generator prompt p.requested p.ceiling (p.scanner kept)).result = .ok r ∧
      r.reason = .maxTokens ∧
      ∀ n : Nat, n ≤ r.tokens ↔ (n : Int) ≤ p.ceiling ∧ (0 < p.requested → (n : Int) ≤ p.requested) := by
  obtain ⟨i, reason, hfirst, hspeaks, hresult⟩ := result_of_first p prompt kept
  have hreason : reason = .maxTokens := by
    cases hfirst.1 with
    | maxTokens => rfl
    | decodeError left fails =>
      obtain ⟨call, hcall, -⟩ := fails
      rw [hdecodes] at hcall
      contradiction
    | endOfSequence left decodes spoken => omega
    | stopMarker left decodes more scanning =>
      rw [hscanning] at scanning
      contradiction
  subst hreason
  refine ⟨_, hresult, rfl, ?_⟩
  have hpositive : 0 ≤ p.budget := Budget.le_clamp_iff.mpr ⟨hceiling, by omega⟩
  have hbudget : (i : Int) = p.budget := by
    apply Int.le_antisymm
    · cases i with
      | zero => exact hpositive
      | succ i =>
        have hleft := (hspeaks i (Nat.lt_succ_self i)).1
        omega
    · cases hfirst.1 with
      | maxTokens spent => exact spent
  intro n
  rw [← Budget.le_clamp_iff, ← budget, ← hbudget]
  show n ≤ i + 0 ↔ _
  omega

/-- Three pieces under a ceiling of two. -/
def abc (requested : Int) : Playback := ⟨["a", "b", "c"], none, requested, 2, false⟩

/-- A request above the ceiling and one that is not positive both get what the ceiling allows. -/
theorem tokens_abc : ∀ requested ∈ [5, 0, -1],
    ∃ r, (generate (abc requested).generator "p" requested 2 ((abc requested).scanner [])).result = .ok r ∧
      r.tokens = 2 := by
  intro requested hrequested
  have hrequest : 0 < requested → 2 ≤ requested := by
    simp only [List.mem_cons, List.not_mem_nil, or_false] at hrequested
    omega
  have hbudget : (abc requested).budget ≤ 2 := (Budget.le_clamp_iff.mp (Int.le_refl _)).1
  have hlong : (abc requested).budget ≤ (abc requested).pieces.length := by
    show _ ≤ (3 : Int)
    omega
  have hceiling : (0 : Int) ≤ 2 := by decide
  obtain ⟨r, hresult, -, htokens⟩ := tokens_of_long (p := abc requested) hceiling rfl rfl hlong "p" []
  have hmost : (r.tokens : Int) ≤ 2 := ((htokens r.tokens).mp (Nat.le_refl _)).1
  have hleast : 2 ≤ r.tokens := (htokens 2).mpr ⟨Int.le_refl 2, hrequest⟩
  exact ⟨r, hresult, by omega⟩

end Playback

end TokenLoop

end GroundedDialogue
