import SoundCard.Proofs.Digits
import SoundCard.Proofs.Success

/-!
# Sound files keep their samples

Samples come back from their bytes in either order, and bytes may be cut between two samples. A written
sound file reads back if it has whole frames and its length can be told in thirty-two bits. Whatever is
read has whole frames, and few enough to be written again.
-/

set_option autoImplicit false

namespace SoundCard

namespace Sample

theorem length_pairs (join : UInt8 → UInt8 → Int16) :
    ∀ bytes : List UInt8, (pairs join [] bytes).length = bytes.length / 2
  | [] => rfl
  | [_] => by simp [pairs]
  | first :: second :: rest => by
    rw [pairs_cons_cons, List.length_cons, length_pairs join rest, List.length_cons,
      List.length_cons]
    omega

theorem pairs_append (join : UInt8 → UInt8 → Int16) :
    ∀ front rest : List UInt8, front.length % 2 = 0 →
      pairs join [] (front ++ rest) = pairs join [] front ++ pairs join [] rest
  | [], _, _ => rfl
  | [_], _, even => by cases even
  | first :: second :: more, rest, even => by
    have even : more.length % 2 = 0 := by
      rw [List.length_cons, List.length_cons] at even
      omega
    rw [List.cons_append, List.cons_append, pairs_cons_cons, pairs_cons_cons,
      pairs_append join more rest even, List.cons_append]

/-- Half a sample at the end is dropped. -/
theorem pairs_take (join : UInt8 → UInt8 → Int16) :
    ∀ (bytes : List UInt8) (count : Nat),
      pairs join [] (bytes.take count) = (pairs join [] bytes).take (count / 2)
  | _, 0 => rfl
  | [], _ + 1 => by simp [pairs]
  | [_], 1 => rfl
  | [_], _ + 2 => by simp [pairs]
  | _ :: _ :: _, 1 => rfl
  | first :: second :: rest, count + 2 => by
    rw [List.take_succ_cons, List.take_succ_cons, pairs_cons_cons, pairs_cons_cons,
      pairs_take join rest count, Nat.add_div_right _ Nat.two_pos, List.take_succ_cons]

theorem length_ofBigEndian (bytes : List UInt8) : (ofBigEndian bytes).length = bytes.length / 2 :=
  length_pairs ..

theorem ofBigEndian_append {front : List UInt8} (even : front.length % 2 = 0) (rest : List UInt8) :
    ofBigEndian (front ++ rest) = ofBigEndian front ++ ofBigEndian rest :=
  pairs_append _ front rest even

/-- Two bytes for each sample, which join to the sample again. -/
theorem pairs_flatMap {join : UInt8 → UInt8 → Int16} {first second : Int16 → UInt8}
    (joined : ∀ sample, join (first sample) (second sample) = sample) (samples : List Int16) :
    pairs join [] (samples.flatMap fun sample => [first sample, second sample]) = samples := by
  induction samples with
  | nil => rfl
  | cons sample rest ih =>
      rw [List.flatMap_cons, List.cons_append, List.cons_append, List.nil_append, pairs_cons_cons,
        joined, ih]

theorem length_flatMap (first second : Int16 → UInt8) (samples : List Int16) :
    (samples.flatMap fun sample => [first sample, second sample]).length = 2 * samples.length := by
  induction samples with
  | nil => rfl
  | cons sample rest ih =>
      rw [List.flatMap_cons, List.length_append, ih, List.length_cons, List.length_cons,
        List.length_cons, List.length_nil]
      omega

theorem length_toBigEndian (samples : List Int16) :
    (toBigEndian samples).length = 2 * samples.length :=
  length_flatMap high low samples

theorem length_toLittleEndian (samples : List Int16) :
    (toLittleEndian samples).length = 2 * samples.length :=
  length_flatMap low high samples

theorem toBigEndian_ne_nil {samples : List Int16} (nonempty : samples ≠ []) :
    toBigEndian samples ≠ [] := by
  have positive := List.length_pos_iff.mpr nonempty
  refine List.length_pos_iff.mp ?_
  rw [length_toBigEndian]
  omega

theorem ofBigEndian_toBigEndian (samples : List Int16) :
    ofBigEndian (toBigEndian samples) = samples := by
  refine pairs_flatMap (fun sample => ?_) samples
  exact ofPair_low_high sample

theorem ofBigEndian_take (samples : List Int16) (count : Nat) :
    ofBigEndian ((toBigEndian samples).take count) = samples.take (count / 2) := by
  have halved : ofBigEndian ((toBigEndian samples).take count) =
      (ofBigEndian (toBigEndian samples)).take (count / 2) := pairs_take ..
  rw [halved, ofBigEndian_toBigEndian]

theorem ofLittleEndian_toLittleEndian (samples : List Int16) :
    ofLittleEndian (toLittleEndian samples) = samples :=
  pairs_flatMap ofPair_low_high samples

end Sample

namespace Wave

namespace Scan

variable {α β : Type}

theorem bind_eq {scan : Scan α} {next : α → Scan β} {input rest : List UInt8} {value : α}
    (read : scan input = .ok (value, rest)) : (scan >>= next) input = next value rest := by
  have first : (scan >>= next) input = (scan input >>= fun found => next found.1 found.2) := rfl
  rw [first, read]
  rfl

theorem exists_of_bind {scan : Scan α} {next : α → Scan β} {input rest : List UInt8} {value : β}
    (read : (scan >>= next) input = .ok (value, rest)) :
    ∃ found middle, scan input = .ok (found, middle) ∧ next found middle = .ok (value, rest) := by
  obtain ⟨⟨found, middle⟩, here, there⟩ := Except.exists_of_bind read
  exact ⟨found, middle, here, there⟩

theorem bytes_append {front : List UInt8} {count : Nat} (whole : front.length = count)
    (rest : List UInt8) : bytes count (front ++ rest) = .ok (front, rest) := by
  subst whole
  unfold bytes
  rw [List.splitAt_eq, List.take_left, List.drop_left]
  exact if_neg (Nat.lt_irrefl _)

theorem number_append {width value : Nat} (fits : value < 256 ^ width) (rest : List UInt8) :
    number width (LittleEndian.encode width value ++ rest) = .ok (value, rest) := by
  refine (bind_eq (bytes_append (LittleEndian.length_encode width value) rest)).trans ?_
  rw [LittleEndian.decode_encode fits]
  rfl

theorem require_eq {condition : Bool} (holds : condition = true) (defect : Defect)
    (input : List UInt8) : require condition defect input = .ok ((), input) := by
  rw [require, if_pos holds]
  rfl

theorem number_lt {width value : Nat} {input rest : List UInt8}
    (read : number width input = .ok (value, rest)) : value < 256 ^ width := by
  obtain ⟨front, middle, taken, decoded⟩ := exists_of_bind read
  cases decoded
  unfold bytes at taken
  rw [List.splitAt_eq] at taken
  dsimp only at taken
  split at taken
  · cases taken
  · cases taken
    have short : (input.take width).length ≤ width := List.length_take_le ..
    exact Nat.lt_of_lt_of_le (LittleEndian.decode_lt _) (Nat.pow_le_pow_right (by decide) short)

end Scan

/-- The format chunk of a written file. -/
def formatChunk : List UInt8 :=
  LittleEndian.encode 2 1 ++ LittleEndian.encode 2 Stream.layout.spec.channels ++
    LittleEndian.encode 4 Stream.layout.spec.rate ++
    LittleEndian.encode 4 (Sink.frameBytes Stream.layout * Stream.layout.spec.rate) ++
    LittleEndian.encode 2 (Sink.frameBytes Stream.layout) ++
    LittleEndian.encode 2 Stream.layout.spec.bits

theorem scan_formatChunk (rest : List UInt8) :
    Layout.scan 16 (formatChunk ++ rest) = .ok (Stream.layout, rest) := by
  simp only [formatChunk, List.append_assoc]
  refine (Scan.bind_eq (Scan.require_eq rfl ..)).trans ?_
  refine (Scan.bind_eq (Scan.number_append (by decide) _)).trans ?_
  refine (Scan.bind_eq (Scan.number_append (by decide) _)).trans ?_
  refine (Scan.bind_eq (Scan.number_append (by decide) _)).trans ?_
  refine (Scan.bind_eq (Scan.number_append (by decide) _)).trans ?_
  refine (Scan.bind_eq (Scan.number_append (by decide) _)).trans ?_
  refine (Scan.bind_eq (Scan.number_append (by decide) _)).trans ?_
  rfl

theorem scanChunk_append {name : List UInt8} (four : name.length = 4) {length : Nat}
    (fits : length < 2 ^ 32) (rest : List UInt8) :
    Source.scanChunk (name ++ (LittleEndian.encode 4 length ++ rest)) =
      .ok ((name, length), rest) :=
  (Scan.bind_eq (Scan.bytes_append four _)).trans (Scan.bind_eq (Scan.number_append fits rest))

theorem file_eq (samples : List Int16) :
    Sink.file Stream.layout samples =
      Source.tag "RIFF" ++ (LittleEndian.encode 4 (36 + 2 * samples.length) ++
        (Source.tag "WAVE" ++ (Source.tag "fmt " ++ (LittleEndian.encode 4 16 ++ (formatChunk ++
          (Source.tag "data" ++ (LittleEndian.encode 4 (2 * samples.length) ++
            Sample.toLittleEndian samples))))))) := by
  rw [Sink.file, Sink.header, formatChunk]
  simp only [List.append_assoc]

theorem findData_chunks {length : Nat} (fits : length < 2 ^ 32) (steps : Nat) (body : List UInt8) :
    Source.findData (steps + 2) none
      (Source.tag "fmt " ++ (LittleEndian.encode 4 16 ++ (formatChunk ++
        (Source.tag "data" ++ (LittleEndian.encode 4 length ++ body))))) =
      .ok (Stream.layout, length, body) := by
  rw [Source.findData, scanChunk_append rfl (by decide)]
  dsimp only [bind, Except.bind]
  rw [if_pos rfl, scan_formatChunk]
  dsimp only
  rw [Source.findData, scanChunk_append rfl fits]
  rfl

/-- A written file opens if its samples fill whole frames. -/
theorem ofBytes_file {samples : List Int16} (fits : 2 * samples.length < 2 ^ 32) :
    Source.ofBytes (Sink.file Stream.layout samples) =
      if samples.length % 2 = 0 then
        .ok ⟨Stream.layout, samples.length, Sample.toLittleEndian samples⟩
      else .error (.malformed .dataNotFrames) := by
  have long : ∃ steps, (Sink.file Stream.layout samples).length = steps + 2 := by
    refine ⟨(Sink.file Stream.layout samples).length - 2, ?_⟩
    rw [file_eq, List.length_append, List.length_append, LittleEndian.length_encode]
    omega
  obtain ⟨steps, long⟩ := long
  have riff : (Source.tag "RIFF").length = 4 := rfl
  have wave : (Source.tag "WAVE").length = 4 := rfl
  have samplewise : 2 * samples.length % Stream.layout.container = 0 := Nat.mul_mod_right ..
  have count : 2 * samples.length / Stream.layout.container = samples.length :=
    Nat.mul_div_cancel_left _ (by decide)
  have channels : Stream.layout.spec.channels = 2 := rfl
  unfold Source.ofBytes
  rw [long, file_eq, Scan.bytes_append riff]
  dsimp only [bind, Except.bind]
  rw [if_pos rfl, Scan.bytes_append (LittleEndian.length_encode ..)]
  dsimp only
  rw [Scan.bytes_append wave]
  dsimp only
  rw [if_pos rfl, findData_chunks fits]
  dsimp only
  rw [if_pos samplewise, count, channels]
  split
  · rfl
  · rfl

theorem samples_whole {samples : List Int16} :
    Source.samples ⟨Stream.layout, samples.length, Sample.toLittleEndian samples⟩ = .ok samples := by
  unfold Source.samples
  by_cases empty : samples.length = 0
  · rw [List.eq_nil_of_length_eq_zero empty]
    rfl
  · have whole : (Sample.toLittleEndian samples).take (2 * samples.length) =
        Sample.toLittleEndian samples :=
      List.take_of_length_le (Nat.le_of_eq (Sample.length_toLittleEndian samples))
    dsimp only
    rw [if_neg empty, if_neg (by decide), if_neg (by decide), List.splitAt_eq]
    dsimp only
    rw [whole, Sample.length_toLittleEndian, if_neg (Nat.lt_irrefl _),
      Sample.ofLittleEndian_toLittleEndian]

/-- A written file reads back. -/
theorem decode_file (path : String) {samples : List Int16} (even : samples.length % 2 = 0)
    (fits : 2 * samples.length < 2 ^ 32) :
    Stream.decode path (Sink.file Stream.layout samples) = .ok samples := by
  unfold Stream.decode
  rw [ofBytes_file fits, if_pos even, Except.mapError_ok]
  dsimp only [bind, Except.bind]
  rw [if_pos rfl, samples_whole, Except.mapError_ok]

/-- A written file with half a frame does not read back. -/
theorem decode_file_unfinished (path : String) {samples : List Int16}
    (odd : samples.length % 2 ≠ 0) (fits : 2 * samples.length < 2 ^ 32) :
    Stream.decode path (Sink.file Stream.layout samples) =
      .error (.cannotOpen path (.malformed .dataNotFrames)) := by
  unfold Stream.decode
  rw [ofBytes_file fits, if_neg odd]
  rfl

theorem findData_lt {steps length : Nat} {known : Option Layout} {layout : Layout}
    {input body : List UInt8}
    (found : Source.findData steps known input = .ok (layout, length, body)) :
    length < 2 ^ 32 := by
  induction steps generalizing known input with
  | zero => cases found
  | succ steps ih =>
      rw [Source.findData] at found
      obtain ⟨⟨⟨name, told⟩, rest⟩, scanned, found⟩ := Except.exists_of_bind found
      have small : told < 2 ^ 32 := by
        obtain ⟨_, middle, _, numbered⟩ := Scan.exists_of_bind scanned
        obtain ⟨number, _, read, named⟩ := Scan.exists_of_bind numbered
        cases named
        exact Scan.number_lt read
      dsimp only at found
      split at found
      · obtain ⟨⟨other, more⟩, _, found⟩ := Except.exists_of_bind found
        exact ih found
      · split at found
        · exact ih found
        · split at found
          · cases known with
            | none => cases found
            | some layout =>
                cases found
                exact small
          · obtain ⟨⟨_, more⟩, _, found⟩ := Except.exists_of_bind found
            exact ih found

/-- An opened file has whole frames, and not too many of them. -/
theorem frames_of_ofBytes {content : List UInt8} {source : Source}
    (opened : Source.ofBytes content = .ok source) :
    source.count * source.layout.container < 2 ^ 32 ∧
      source.count % source.layout.spec.channels = 0 := by
  unfold Source.ofBytes at opened
  obtain ⟨⟨riff, rest⟩, _, opened⟩ := Except.exists_of_bind opened
  dsimp only at opened
  split at opened
  · obtain ⟨⟨_, rest⟩, _, opened⟩ := Except.exists_of_bind opened
    obtain ⟨⟨wave, rest⟩, _, opened⟩ := Except.exists_of_bind opened
    dsimp only at opened
    split at opened
    · obtain ⟨⟨layout, length, body⟩, found, opened⟩ := Except.exists_of_bind opened
      dsimp only at opened
      split at opened
      · split at opened
        · next framewise =>
          cases opened
          exact ⟨Nat.lt_of_le_of_lt (Nat.div_mul_le_self ..) (findData_lt found), framewise⟩
        · cases opened
      · cases opened
    · cases opened
  · cases opened

/-- Decoded samples are whole frames of two, and not too many of them. -/
theorem frames_of_decode {path : String} {content : List UInt8} {samples : List Int16}
    (decoded : Stream.decode path content = .ok samples) :
    samples.length % 2 = 0 ∧ 2 * samples.length < 2 ^ 32 := by
  unfold Stream.decode at decoded
  obtain ⟨source, opened, decoded⟩ := Except.exists_of_bind decoded
  obtain ⟨small, framewise⟩ := frames_of_ofBytes (Except.of_mapError opened)
  dsimp only at decoded
  split at decoded
  · next spec =>
    have read := Except.of_mapError decoded
    rw [spec] at framewise
    unfold Source.samples at read
    split at read
    · cases read
      exact ⟨rfl, by decide⟩
    · split at read
      · cases read
      · split at read
        · cases read
        · next supported =>
          have container : source.layout.container = 2 :=
            Decidable.not_not.mp (not_or.mp supported).1
          rw [container] at small
          rw [List.splitAt_eq] at read
          dsimp only at read
          split at read
          · cases read
          · next whole =>
            have short : (source.body.take (2 * source.count)).length ≤ 2 * source.count :=
              List.length_take_le ..
            cases read
            have count : (Sample.ofLittleEndian (source.body.take (2 * source.count))).length =
                source.count := by
              rw [Sample.ofLittleEndian, Sample.length_pairs]
              omega
            have even : source.count % 2 = 0 := framewise
            rw [count]
            exact ⟨even, by omega⟩
  · cases decoded

end Wave

end SoundCard
