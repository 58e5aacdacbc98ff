import Huashan.Graphics.Process

/-!
# Huashan.Graphics.Flatten

Flattened buffers are read back.

* `flatten_unflatten`: several buffers in a row, by the positions that both functions compute, are
  received by as many new objects.
* `unflatten_flatten`: what is read is what would be written.
* `next_outside_iff`: those positions leave the room that the sizes account for.
-/

namespace Huashan
namespace Graphics

section Overwrite

variable {α : Type} {l data : List α} {off : Nat}

theorem length_overwrite (h : off + data.length ≤ l.length) :
    (overwrite l off data).length = l.length := by
  simp [overwrite]
  omega

theorem getElem?_overwrite (h : off + data.length ≤ l.length) (i : Nat) :
    (overwrite l off data)[i]? =
      if off ≤ i ∧ i < off + data.length then data[i - off]? else l[i]? := by
  have hoff : (l.take off).length = off := List.length_take_of_le (by omega)
  unfold overwrite
  by_cases hlt : i < off
  · rw [if_neg (by omega), List.append_assoc, List.getElem?_append_left (by omega),
      List.getElem?_take_of_lt hlt]
  · rw [List.append_assoc, List.getElem?_append_right (by omega), hoff]
    by_cases hin : i < off + data.length
    · rw [if_pos ⟨by omega, hin⟩, List.getElem?_append_left (by omega)]
    · rw [if_neg (by omega), List.getElem?_append_right (by omega), List.getElem?_drop]
      congr 1
      omega

theorem slice_overwrite_self (h : off + data.length ≤ l.length) :
    slice (overwrite l off data) off data.length = data := by
  apply List.ext_getElem?
  intro i
  rw [getElem?_slice, getElem?_overwrite h]
  by_cases hi : i < data.length
  · rw [if_pos hi, if_pos ⟨by omega, by omega⟩]
    congr 1
    omega
  · rw [if_neg hi, List.getElem?_eq_none (by omega)]

theorem slice_overwrite_of_le {off' len : Nat} (h : off + data.length ≤ l.length)
    (hle : off' + len ≤ off) : slice (overwrite l off data) off' len = slice l off' len := by
  apply List.ext_getElem?
  intro i
  rw [getElem?_slice, getElem?_slice, getElem?_overwrite h]
  by_cases hi : i < len
  · rw [if_pos hi, if_pos hi, if_neg (by omega)]
  · rw [if_neg hi, if_neg hi]

/-- Nothing changes when what is there is written again. -/
theorem overwrite_slice (h : off + data.length ≤ l.length)
    (hsame : slice l off data.length = data) : overwrite l off data = l := by
  apply List.ext_getElem?
  intro i
  rw [getElem?_overwrite h]
  by_cases hi : off ≤ i ∧ i < off + data.length
  · have hlt : i - off < data.length := by omega
    rw [if_pos hi, ← hsame, getElem?_slice, if_pos hlt]
    congr 1
    omega
  · rw [if_neg hi]

end Overwrite

theorem slice_append (l : List Word) (off len len' : Nat) :
    slice l off (len + len') = slice l off len ++ slice l (off + len) len' := by
  rw [slice, slice, slice, List.take_add, List.drop_drop]

namespace Contents

variable {b : Contents} {c c' : Cursor} {m m' : Memory}

/-- Few enough descriptors and integers to be read. -/
def Small (b : Contents) : Prop := b.numFds < 4096 ∧ b.numInts < 4086

/-- The size is one that a `size_t` has room for. -/
def Sized (b : Contents) : Prop := (8 + b.numInts) * 4 < sizeT

/-- A buffer whose handle has neither descriptors nor integers is read as one without size and
handle. -/
def read (b : Contents) : Contents := if b.numFds ≠ 0 ∨ b.numInts ≠ 0 then b else nothing

theorem length_fds (b : Contents) : b.fds.length = b.numFds := by
  cases h : b.handle <;> simp [fds, numFds, h]

theorem length_ints (b : Contents) : b.ints.length = b.numInts := by
  cases h : b.handle <;> simp [ints, numInts, h]

theorem length_words (b : Contents) : b.words.length = 8 + b.numInts := by
  rw [words, List.length_append, length_ints]
  rfl

theorem Sized.getFlattenedSize (h : b.Sized) : b.getFlattenedSize = (8 + b.numInts) * 4 :=
  Nat.mod_eq_of_lt h

theorem Small.getFlattenedSize (h : b.Small) : b.getFlattenedSize = (8 + b.numInts) * 4 := by
  have hints := h.2
  refine Sized.getFlattenedSize ?_
  rw [Sized, sizeT]
  omega

/-- The descriptors and the integers are those of the handle. -/
theorem nativeHandle_eq (hne : b.numFds ≠ 0 ∨ b.numInts ≠ 0) :
    nativeHandle b.fds b.ints = b.handle := by
  cases hb : b.handle with
  | none => simp [numFds, numInts, hb] at hne
  | some nh =>
    simp only [fds, ints, hb, Option.map_some, Option.getD_some]
    rw [Graphics.nativeHandle, dif_pos ⟨nh.numFds_lt, nh.numInts_lt⟩]

/-- What is flattened is there. -/
structure Written (b : Contents) (c : Cursor) (m : Memory) : Prop where
  words : slice m.words c.buffer b.words.length = b.words
  fds : slice m.fds c.fds b.fds.length = b.fds
  words_le : c.buffer + b.words.length ≤ m.words.length
  fds_le : c.fds + b.fds.length ≤ m.fds.length

/-- The cursor behind a buffer. -/
def next (b : Contents) (c : Cursor) : Cursor :=
  ⟨c.buffer + b.getFlattenedSize, c.size - b.getFlattenedSize, c.fds + b.numFds,
    c.count - b.numFds⟩

theorem flatten_eq_some {r : Cursor × Memory} : b.flatten c m = some (r, .noError) ↔
    (b.getFlattenedSize ≤ c.size ∧ b.numFds ≤ c.count) ∧
      (c.buffer + b.words.length ≤ m.words.length ∧ c.fds + b.fds.length ≤ m.fds.length) ∧
      r = (b.next c, ⟨overwrite m.words c.buffer b.words, overwrite m.fds c.fds b.fds⟩) := by
  unfold flatten getFdCount next
  dsimp only
  split
  · rename_i hsize
    simp
    omega
  · split
    · rename_i hsize hcount
      simp
      omega
    · rename_i hsize hcount
      split
      · rename_i hroom
        simp [hroom, not_lt.mp hsize, not_lt.mp hcount, eq_comm]
      · rename_i hroom
        simp [hroom]

theorem parse_written (h : b.Small) (hw : b.Written c m) (hsize : b.getFlattenedSize ≤ c.size)
    (hcount : b.numFds ≤ c.count) : parse c m = some (.data b.read (b.next c)) := by
  obtain ⟨hfds, hints⟩ := h
  have hneeded := Small.getFlattenedSize ⟨hfds, hints⟩
  have hlen := hw.words
  rw [length_words, slice_append, words] at hlen
  obtain ⟨hheader, hrest⟩ := List.append_inj hlen (by
    have := hw.words_le
    rw [length_words] at this
    simp [slice]
    omega)
  have hn : (BitVec.ofNat 32 b.numFds).toNat = b.numFds := by
    rw [BitVec.toNat_ofNat]
    omega
  have hi : (BitVec.ofNat 32 b.numInts).toNat = b.numInts := by
    rw [BitVec.toNat_ofNat]
    omega
  have hread := hw.fds
  rw [length_fds] at hread
  have hsizeof : (8 + b.numInts) * 4 % sizeT = b.getFlattenedSize := rfl
  have hwords := hw.words_le
  have hfdsle := hw.fds_le
  rw [length_words] at hwords
  rw [length_fds] at hfdsle
  unfold parse
  rw [if_neg (by omega), hheader]
  simp only [ne_eq, not_true_eq_false, if_false, hn, hi, hread, hrest, hsizeof]
  rw [if_neg (by omega), if_neg (by omega), if_neg (by omega), if_pos ⟨by omega, by omega⟩]
  by_cases hne : b.numFds ≠ 0 ∨ b.numInts ≠ 0
  · rw [if_pos hne, nativeHandle_eq hne, read, if_pos hne]
    rfl
  · rw [if_neg hne, read, if_neg hne]
    rfl

/-! ## Several in a row -/

def flattenAll : List Contents → Cursor → Memory → Option (Cursor × Memory)
  | [], c, m => some (c, m)
  | b :: bs, c, m =>
    match b.flatten c m with
    | some ((c, m), .noError) => flattenAll bs c m
    | _ => none

def parseAll : Nat → Cursor → Memory → Option (List Contents × Cursor)
  | 0, c, _ => some ([], c)
  | n + 1, c, m =>
    match parse c m with
    | some (.data b c) => (parseAll n c m).map fun r => (b :: r.1, r.2)
    | _ => none

theorem flattenAll_cons {bs : List Contents} {r : Cursor × Memory}
    (h : flattenAll (b :: bs) c m = some r) :
    ∃ r₁, b.flatten c m = some (r₁, .noError) ∧ flattenAll bs r₁.1 r₁.2 = some r := by
  rw [flattenAll] at h
  split at h
  · rename_i c₁ m₁ heq
    exact ⟨(c₁, m₁), heq, h⟩
  · cases h

/-- What is in front of the cursor stays. -/
theorem flattenAll_frame {bs : List Contents} (h : flattenAll bs c m = some (c', m')) :
    (m'.words.length = m.words.length ∧
        ∀ off len, off + len ≤ c.buffer → slice m'.words off len = slice m.words off len) ∧
      m'.fds.length = m.fds.length ∧
        ∀ off len, off + len ≤ c.fds → slice m'.fds off len = slice m.fds off len := by
  induction bs generalizing c m with
  | nil =>
    obtain ⟨rfl, rfl⟩ := Prod.mk.inj (Option.some.inj h)
    exact ⟨⟨rfl, fun _ _ _ => rfl⟩, rfl, fun _ _ _ => rfl⟩
  | cons b bs ih =>
    obtain ⟨r, hflat, hrest⟩ := flattenAll_cons h
    obtain ⟨-, ⟨hwords, hfds⟩, rfl⟩ := flatten_eq_some.mp hflat
    obtain ⟨⟨hlen, hsame⟩, hlen', hsame'⟩ := ih hrest
    dsimp only [next] at hsame hsame' hlen hlen'
    refine ⟨⟨hlen.trans (length_overwrite hwords), ?_⟩, hlen'.trans (length_overwrite hfds), ?_⟩
    · intro off len hle
      rw [hsame off len (by omega), slice_overwrite_of_le hwords hle]
    · intro off len hle
      rw [hsame' off len (by omega), slice_overwrite_of_le hfds hle]

/-- What was flattened is parsed, and the reader ends where the writer did. -/
theorem parseAll_flattenAll {bs : List Contents} (hsmall : ∀ b ∈ bs, b.Small)
    (h : flattenAll bs c m = some (c', m')) :
    parseAll bs.length c m' = some (bs.map read, c') := by
  induction bs generalizing c m with
  | nil =>
    obtain ⟨rfl, rfl⟩ := Prod.mk.inj (Option.some.inj h)
    rfl
  | cons b bs ih =>
    obtain ⟨r, hflat, hrest⟩ := flattenAll_cons h
    obtain ⟨⟨hsize, hcount⟩, ⟨hwords, hfds⟩, rfl⟩ := flatten_eq_some.mp hflat
    have hb := hsmall b List.mem_cons_self
    obtain ⟨⟨hlen, hsame⟩, hlen', hsame'⟩ := flattenAll_frame hrest
    dsimp only [next] at hsame hsame' hlen hlen'
    have hbehind : c.buffer + b.words.length ≤ c.buffer + b.getFlattenedSize := by
      rw [hb.getFlattenedSize, length_words]
      omega
    have hbehind' : c.fds + b.fds.length ≤ c.fds + b.numFds := by rw [length_fds]
    have hw : b.Written c m' := by
      refine ⟨?_, ?_, ?_, ?_⟩
      · rw [hsame _ _ hbehind, slice_overwrite_self hwords]
      · rw [hsame' _ _ hbehind', slice_overwrite_self hfds]
      · rw [hlen, length_overwrite hwords]
        exact hwords
      · rw [hlen', length_overwrite hfds]
        exact hfds
    rw [List.length_cons, parseAll, parse_written hb hw hsize hcount]
    simp only [ih (fun b' hb' => hsmall b' (List.mem_cons_of_mem b hb')) hrest, Option.map_some,
      List.map_cons]

end Contents

/-! ### The objects that receive them -/

namespace Process

variable {ν : Type} [DecidableEq ν] {p p' : Process ν} {v : ν} {c c' : Cursor} {m : Memory}

/-- What an object has, with its handle. -/
def contents (p : Process ν) (v : ν) : Option Contents :=
  (p.buffers v).map fun b =>
    ⟨b.width, b.height, b.stride, b.format, b.usage, b.handle.bind p.handles⟩

/-- Objects without handles read one behind the other what is flattened. Handles can be created and
registered. -/
def unflattenAll : List ν → Process ν → Cursor → Memory → Option (Process ν × Cursor)
  | [], p, c, _ => some (p, c)
  | v :: vs, p, c, m => do
    let b ← p.buffers v
    match ← p.unflatten v b c m true true true with
    | ((p, c), .noError) => unflattenAll vs p c m
    | _ => none

/-- Only these objects have changed, and only handles are new that are not in use yet. -/
structure Received (vs : List ν) (p p' : Process ν) : Prop where
  buffers : ∀ u, u ∉ vs → p'.buffers u = p.buffers u
  handles : ∀ h < p.next, p'.handles h = p.handles h
  next : p.next ≤ p'.next

theorem unflatten_eq_received {b : GraphicBuffer ν} {d : Contents} (hb : b.handle = none)
    (hparse : parse c m = some (.data d c')) (hd : d.handle = none → d = .nothing) :
    ∃ p', p.unflatten v b c m true true true = some ((p', c'), .noError) ∧
      Received [v] p p' ∧ p'.contents v = some d ∧
      ∀ x, p'.buffers v = some x → ∀ h ∈ x.handle, h < p'.next := by
  cases hh : d.handle with
  | none =>
    refine ⟨p.setBuffer v (some { b.cleared with mOwner := .ownHandle }), ?_, ⟨?_, ?_, le_rfl⟩,
      ?_, ?_⟩
    · simp [unflatten, hparse, hb, receive, hh]
    · intro u hu
      simp [setBuffer, List.mem_singleton.not.mp hu]
    · exact fun _ _ => rfl
    · rw [hd hh]
      simp [contents, setBuffer, GraphicBuffer.cleared, Contents.nothing]
    · rintro x hx h hmem
      obtain rfl : _ = x := by simpa [setBuffer] using hx
      cases hmem
  | some nh =>
    refine ⟨((p.nativeHandleCreate nh).registerBuffer p.next).setBuffer v (some { b with
      width := d.width
      height := d.height
      stride := d.stride
      format := d.format
      usage := d.usage
      handle := some p.next
      mOwner := .ownHandle }), ?_, ⟨?_, ?_, Nat.le_succ _⟩, ?_, ?_⟩
    · simp [unflatten, hparse, hb, receive, hh]
    · intro u hu
      simp [setBuffer, registerBuffer, nativeHandleCreate, List.mem_singleton.not.mp hu]
    · intro h hlt
      exact Function.update_of_ne hlt.ne ..
    · obtain ⟨width, height, stride, format, usage, handle⟩ := d
      cases hh
      simp [contents, setBuffer, registerBuffer, nativeHandleCreate]
    · rintro x hx h hmem
      obtain rfl : _ = x := by simpa [setBuffer] using hx
      cases hmem
      exact Nat.lt_succ_self _

/-- Objects receive all that can be parsed. -/
theorem unflattenAll_of_parseAll {vs : List ν} {ds : List Contents}
    (hparse : Contents.parseAll vs.length c m = some (ds, c')) (hnodup : vs.Nodup)
    (hd : ∀ d ∈ ds, d.handle = none → d = .nothing)
    (hnew : ∀ v ∈ vs, ∃ b, p.buffers v = some b ∧ b.handle = none) :
    ∃ p', unflattenAll vs p c m = some (p', c') ∧ Received vs p p' ∧
      vs.map p'.contents = ds.map some := by
  induction vs generalizing p c ds with
  | nil =>
    obtain ⟨rfl, rfl⟩ := Prod.mk.inj (Option.some.inj hparse)
    exact ⟨p, rfl, ⟨fun _ _ => rfl, fun _ _ => rfl, le_rfl⟩, rfl⟩
  | cons v vs ih =>
    obtain ⟨hv, hvs⟩ := List.nodup_cons.mp hnodup
    obtain ⟨b, hbuffer, hb⟩ := hnew v List.mem_cons_self
    rw [List.length_cons, Contents.parseAll] at hparse
    split at hparse
    · next d c₁ hd₁ =>
      obtain ⟨⟨ds', c₂⟩, hrest, heq⟩ := Option.map_eq_some_iff.mp hparse
      obtain ⟨rfl, rfl⟩ := Prod.mk.inj heq
      obtain ⟨p₁, hunflatten, hreceived, hcontents, hbelow⟩ := unflatten_eq_received (p := p)
        (v := v) hb hd₁ (hd d List.mem_cons_self)
      have hnew₁ : ∀ u ∈ vs, ∃ b, p₁.buffers u = some b ∧ b.handle = none := by
        intro u hu
        have hne : u ∉ [v] := by
          rw [List.mem_singleton]
          rintro rfl
          exact hv hu
        rw [hreceived.buffers u hne]
        exact hnew u (List.mem_cons_of_mem v hu)
      obtain ⟨p', hall, hkept, hothers⟩ := ih hrest hvs
        (fun d' hd' => hd d' (List.mem_cons_of_mem d hd')) hnew₁
      refine ⟨p', ?_, ⟨fun u hu => ?_, fun h hlt => ?_, hreceived.next.trans hkept.next⟩, ?_⟩
      · simp [unflattenAll, hbuffer, hunflatten, hall]
      · rw [hkept.buffers u fun hmem => hu (List.mem_cons_of_mem v hmem)]
        exact hreceived.buffers u fun hmem => hu (List.mem_singleton.mp hmem ▸ List.mem_cons_self)
      · rw [hkept.handles h (hlt.trans_le hreceived.next), hreceived.handles h hlt]
      · -- the handle of `v` is older than those of the objects behind it
        have hsame : p'.contents v = p₁.contents v := by
          rw [contents, contents, hkept.buffers v hv]
          cases hx : p₁.buffers v with
          | none => rfl
          | some x =>
            cases hxh : x.handle with
            | none => simp [hxh]
            | some h => simp [hxh, hkept.handles h (hbelow x hx h hxh)]
        rw [List.map_cons, List.map_cons, hsame, hcontents, hothers]
    · cases hparse

end Process

namespace Contents

variable {b : Contents} {c c' : Cursor} {m m' : Memory}

theorem read_eq_nothing (h : b.read.handle = none) : b.read = nothing := by
  unfold read at h ⊢
  split
  · next hne =>
    rw [if_pos hne] at h
    simp [numFds, numInts, h] at hne
  · rfl

/-- Buffers that are flattened one behind the other are read back one behind the other, by as many
objects that have no handles, and the reader ends where the writer did. -/
theorem flatten_unflatten {ν : Type} [DecidableEq ν] {p : Process ν} {vs : List ν}
    {bs : List Contents} (hsmall : ∀ b ∈ bs, b.Small) (h : flattenAll bs c m = some (c', m'))
    (hlen : vs.length = bs.length) (hnodup : vs.Nodup)
    (hnew : ∀ v ∈ vs, ∃ b, p.buffers v = some b ∧ b.handle = none) :
    parseAll bs.length c m' = some (bs.map read, c') ∧
      ∃ p', Process.unflattenAll vs p c m' = some (p', c') ∧
        vs.map p'.contents = (bs.map read).map some := by
  have hparse := parseAll_flattenAll hsmall h
  obtain ⟨p', hall, -, hcontents⟩ := Process.unflattenAll_of_parseAll (hlen.symm ▸ hparse) hnodup
    (fun d hd => by
      obtain ⟨b, -, rfl⟩ := List.mem_map.mp hd
      exact read_eq_nothing) hnew
  exact ⟨hparse, p', hall, hcontents⟩

/-- A buffer with one descriptor and two integers. -/
def preview : Contents :=
  ⟨640, 480, 640, 17, 51, some ⟨[3], [1, 2], by decide, by decide⟩⟩

def blank (words fds : Nat) : Memory := ⟨List.replicate words 0, List.replicate fds 0⟩

theorem preview_small : preview.Small := ⟨by decide, by decide⟩

theorem preview_sized : preview.Sized := show (8 + 2) * 4 < 2 ^ 32 by decide

theorem flattenAll_preview :
    (flattenAll [preview, preview] ⟨0, 80, 0, 2⟩ (blank 50 2)).isSome = true := by decide +kernel

/-- Two objects that have just been constructed. -/
def twoObjects : Process Bool := (Process.start.construct false).construct true

theorem flatten_unflatten_preview : ∃ (r : Cursor × Memory) (p' : Process Bool),
    parseAll 2 ⟨0, 80, 0, 2⟩ r.2 = some ([preview.read, preview.read], r.1) ∧
      Process.unflattenAll [false, true] twoObjects ⟨0, 80, 0, 2⟩ r.2 = some (p', r.1) ∧
      [p'.contents false, p'.contents true] = [some preview.read, some preview.read] := by
  obtain ⟨⟨c', m'⟩, h⟩ := Option.isSome_iff_exists.mp flattenAll_preview
  have hnew : ∀ v ∈ [false, true], ∃ b, twoObjects.buffers v = some b ∧ b.handle = none :=
    fun v _ => ⟨.empty, by cases v <;> rfl, rfl⟩
  obtain ⟨hparse, p', hall, hcontents⟩ := flatten_unflatten (by simp [preview_small]) h
    (show [false, true].length = 2 from rfl) (by decide) hnew
  exact ⟨(c', m'), p', hparse, hall, hcontents⟩

/-! ## What is read -/

theorem slice_length {l : List Word} {off len : Nat} (h : off + len ≤ l.length) :
    (slice l off len).length = len := by
  simp [slice]
  omega

theorem parse_eq_data (h : parse c m = some (.data b c')) :
    ∃ width height stride format usage six seven,
      slice m.words c.buffer 8 = [gbfr, width, height, stride, format, usage, six, seven] ∧
      (six.toNat < 4096 ∧ seven.toNat < 4086) ∧
      ((8 + seven.toNat) * 4 % sizeT ≤ c.size ∧ six.toNat ≤ c.count) ∧
      (c.buffer + 8 + seven.toNat ≤ m.words.length ∧ c.fds + six.toNat ≤ m.fds.length) ∧
      b = (if six.toNat ≠ 0 ∨ seven.toNat ≠ 0 then
        ⟨width, height, stride, format, usage,
          nativeHandle (slice m.fds c.fds six.toNat)
            (slice m.words (c.buffer + 8) seven.toNat)⟩
        else .nothing) ∧
      c' = ⟨c.buffer + (8 + seven.toNat) * 4 % sizeT, c.size - (8 + seven.toNat) * 4 % sizeT,
        c.fds + six.toNat, c.count - six.toNat⟩ := by
  unfold parse at h
  split at h
  · cases h
  · split at h
    · rename_i magic width height stride format usage six seven hheader
      split at h
      · cases h
      · rename_i hmagic
        dsimp only at h
        split at h
        · cases h
        · rename_i hlarge
          split at h
          · cases h
          · rename_i hsize
            split at h
            · cases h
            · rename_i hcount
              split at h
              · rename_i hroom
                obtain ⟨rfl, rfl⟩ := Parsed.data.inj (Option.some.inj h)
                have hmagic' : magic = gbfr := not_not.mp hmagic
                rw [hmagic'] at hheader
                exact ⟨width, height, stride, format, usage, six, seven, hheader,
                  ⟨by omega, by omega⟩, ⟨not_lt.mp hsize, not_lt.mp hcount⟩, hroom, rfl, rfl⟩
              · cases h
    · cases h

/-- Where a buffer with descriptors or integers can be read, it could have been written: writing
it there changes nothing, and ends in the same place. -/
theorem unflatten_flatten (h : parse c m = some (.data b c')) (hne : b.numFds ≠ 0 ∨ b.numInts ≠ 0) :
    b.flatten c m = some ((c', m), .noError) := by
  obtain ⟨width, height, stride, format, usage, six, seven, hheader, ⟨hsix, hseven⟩,
    ⟨hsize, hcount⟩, ⟨hwords, hfds⟩, hb, rfl⟩ := parse_eq_data h
  have hlenfds := slice_length hfds
  have hlenints := slice_length (show c.buffer + 8 + seven.toNat ≤ m.words.length from hwords)
  by_cases hnone : six.toNat ≠ 0 ∨ seven.toNat ≠ 0
  · rw [if_pos hnone, nativeHandle, dif_pos ⟨by omega, by omega⟩] at hb
    have hnumFds : b.numFds = six.toNat := by
      rw [hb]
      exact hlenfds
    have hnumInts : b.numInts = seven.toNat := by
      rw [hb]
      exact hlenints
    have hsame : b.words = slice m.words c.buffer (8 + seven.toNat) := by
      rw [slice_append, hheader, Contents.words, hnumFds, hnumInts, BitVec.ofNat_toNat,
        BitVec.ofNat_toNat, BitVec.setWidth_eq, BitVec.setWidth_eq, hb]
      rfl
    have hsame' : b.fds = slice m.fds c.fds six.toNat := by
      rw [hb]
      rfl
    have hlenw := b.length_words
    have hlenf := b.length_fds
    have hwritten : overwrite m.words c.buffer b.words = m.words :=
      overwrite_slice (by omega) (by rw [hlenw, hnumInts, hsame])
    have hwritten' : overwrite m.fds c.fds b.fds = m.fds :=
      overwrite_slice (by omega) (by rw [hlenf, hnumFds, hsame'])
    rw [flatten_eq_some, hwritten, hwritten', next, getFlattenedSize, hnumFds, hnumInts]
    exact ⟨⟨hsize, hcount⟩, ⟨by omega, by omega⟩, rfl⟩
  · rw [if_neg hnone] at hb
    subst hb
    exact (hne.elim (fun h => h rfl) fun h => h rfl).elim

theorem parse_preview : parse ⟨0, 40, 0, 1⟩ ⟨preview.words, preview.fds⟩ =
    some (.data preview ⟨40, 0, 1, 0⟩) := rfl

theorem unflatten_flatten_preview :
    preview.flatten ⟨0, 40, 0, 1⟩ ⟨preview.words, preview.fds⟩ =
      some ((⟨40, 0, 1, 0⟩, ⟨preview.words, preview.fds⟩), .noError) :=
  unflatten_flatten parse_preview (.inl (by decide))

/-- After a buffer has been written where the size says truly how much room there is, another one
for which there is room is written outside the memory exactly when there is not the room that the
pointer has left out. -/
theorem next_outside_iff {b' : Contents} (hb : b.Sized) (hb' : b'.Sized)
    (hsize : c.buffer + c.size / 4 = m.words.length) (hcount : c.fds + c.count = m.fds.length)
    (h : b.flatten c m = some ((c', m'), .noError)) :
    b'.flatten c' m' = none ↔ b.numFds + b'.numFds ≤ c.count ∧
      (8 + b.numInts) + (8 + b'.numInts) ≤ c.size / 4 ∧
      c.size / 4 < 4 * (8 + b.numInts) + (8 + b'.numInts) := by
  obtain ⟨⟨hsz, hct⟩, ⟨hwords, hfds⟩, heq⟩ := flatten_eq_some.mp h
  obtain ⟨rfl, rfl⟩ := Prod.mk.inj heq
  have hflat := hb.getFlattenedSize
  have hflat' := hb'.getFlattenedSize
  unfold flatten getFdCount next
  dsimp only
  rw [length_overwrite hwords, length_overwrite hfds]
  have hlen := b'.length_words
  have hlen' := b'.length_fds
  have hfl := b.length_fds
  split
  · simp
    omega
  · split
    · simp
      omega
    · split
      · simp
        omega
      · simp
        omega

theorem next_outside_iff_preview : ∃ (c : Cursor) (m : Memory), preview.flatten c m = none := by
  obtain ⟨⟨c, m⟩, h⟩ := Option.isSome_iff_exists.mp (show (flattenAll [preview] ⟨0, 80, 0, 2⟩
    (blank 20 2)).isSome = true by decide +kernel)
  obtain ⟨⟨c₁, m₁⟩, hflat, hrest⟩ := flattenAll_cons h
  exact ⟨c₁, m₁, (next_outside_iff preview_sized preview_sized rfl rfl hflat).mpr (by decide)⟩

end Contents
end Graphics
end Huashan
