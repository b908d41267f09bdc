import Mathlib.Tactic.Common
import SceneForge.Picture.Targa

set_option autoImplicit false

/-!
# Run-length packed TGA pictures

The colors of a TGA picture stand one after the other in its file, or in packets: a color that is
repeated, or a stretch of colors. A reader of packets takes what it still needs from each packet and
leaves everything behind the last one alone. So it sees the same colors as a reader of the picture
in which they are spelled out, and what it accepts is nothing but packets.

## Main definitions

* `SceneForge.Targa.Cell` — the bytes of a color.
* `SceneForge.Targa.Packet` — packets, with the cells that they hold and the bytes that they take.
* `SceneForge.Targa.Covers` — packets that hold as many cells as are needed, and none in vain.
* `SceneForge.Targa.unpackedHead` — the header of the picture in which all colors are spelled out.

## Main results

* `SceneForge.Targa.raw_eq_ok_iff` — colors one after the other.
* `SceneForge.Targa.exists_packet_of_packet`, `SceneForge.Targa.exists_packet_bytes` — one packet.
* `SceneForge.Targa.packed_eq_ok_iff` — packets one after the other.
* `SceneForge.Targa.decode_packed` — packed pictures and what they spell.
-/

namespace SceneForge.Targa

variable {d : Depth}

/-! ## Cells -/

/-- The bytes of a color in some layout. -/
structure Cell (d : Depth) where
  /-- The bytes. -/
  bytes : Bytes
  /-- There are as many as the layout has. -/
  size : bytes.length = d.size

/-- The color of a cell. -/
def Cell.color (c : Cell d) : Color :=
  match color? d c.bytes with
  | some (color, _) => color
  | none => default

/-- The bytes of cells one after the other. -/
def image (cells : List (Cell d)) : Bytes := cells.flatMap Cell.bytes

/-- The bytes of a cell come before those of the cells behind it. -/
lemma image_cons (c : Cell d) (cells : List (Cell d)) : image (c :: cells) = c.bytes ++ image cells :=
  rfl

/-- Cells take as many bytes as the layout says. -/
lemma length_image (cells : List (Cell d)) : (image cells).length = cells.length * d.size := by
  induction cells with
  | nil => simp [image]
  | cons c cells ih =>
    rw [image_cons, List.length_append, c.size, ih, List.length_cons, Nat.succ_mul, Nat.add_comm]

/-- The first color of some bytes is that of the cell that they start with. -/
lemma color?_eq_some_iff {bytes rest : Bytes} {color : Color} :
    color? d bytes = some (color, rest) ↔
      ∃ c : Cell d, bytes = c.bytes ++ rest ∧ color = c.color := by
  constructor
  · intro h
    cases d with
    | grey =>
      match bytes, h with
      | y :: rest, h =>
        cases h
        exact ⟨⟨[y], rfl⟩, rfl, rfl⟩
    | bgr =>
      match bytes, h with
      | b :: g :: r :: rest, h =>
        cases h
        exact ⟨⟨[b, g, r], rfl⟩, rfl, rfl⟩
    | bgra =>
      match bytes, h with
      | b :: g :: r :: a :: rest, h =>
        cases h
        exact ⟨⟨[b, g, r, a], rfl⟩, rfl, rfl⟩
  · rintro ⟨⟨bytes, size⟩, rfl, rfl⟩
    cases d with
    | grey =>
      match bytes, size with
      | [y], _ => rfl
    | bgr =>
      match bytes, size with
      | [b, g, r], _ => rfl
    | bgra =>
      match bytes, size with
      | [b, g, r, a], _ => rfl

/-- **Colors one after the other** are those of cells one after the other.

**Proof sketch.** Induction on the number of colors. One color is read from the bytes of one cell
(`color?_eq_some_iff`), and the induction hypothesis gives the cells of the rest. -/
lemma raw_eq_ok_iff {n : Nat} {bytes rest : Bytes} {colors : List Color} :
    raw d n bytes = .ok (colors, rest) ↔ ∃ cells : List (Cell d),
      cells.length = n ∧ bytes = image cells ++ rest ∧ colors = cells.map Cell.color := by
  induction n generalizing bytes colors with
  | zero =>
    constructor
    · intro h
      cases h
      exact ⟨[], rfl, rfl, rfl⟩
    · rintro ⟨cells, hlen, rfl, rfl⟩
      obtain rfl := List.length_eq_zero_iff.mp hlen
      rfl
  | succ n ih =>
    rw [raw]
    constructor
    · intro h
      split at h
      · cases h
      · rename_i color bytes' hcolor
        obtain ⟨c, rfl, rfl⟩ := color?_eq_some_iff.mp hcolor
        cases hraw : raw d n bytes' with
        | error f =>
          rw [hraw] at h
          cases h
        | ok r =>
          rw [hraw] at h
          cases h
          obtain ⟨cells, rfl, rfl, hcolors⟩ := ih.mp hraw
          refine ⟨c :: cells, rfl, ?_, ?_⟩
          · rw [image_cons, List.append_assoc]
          · rw [hcolors, List.map_cons]
    · rintro ⟨cells, hlen, rfl, rfl⟩
      cases cells with
      | nil => cases hlen
      | cons c cells =>
        have hbytes : image (c :: cells) ++ rest = c.bytes ++ (image cells ++ rest) := by
          rw [image_cons, List.append_assoc]
        have hcolor : color? d (image (c :: cells) ++ rest) =
            some (c.color, image cells ++ rest) := color?_eq_some_iff.mpr ⟨c, hbytes, rfl⟩
        have hrest : raw d n (image cells ++ rest) = .ok (cells.map Cell.color, rest) :=
          ih.mpr ⟨cells, Nat.succ_inj.mp hlen, rfl, rfl⟩
        rw [hcolor]
        simp only [hrest]
        rfl

/-! ## Packets -/

/-- A packet stands for 1 to 128 colors. -/
inductive Packet (d : Depth) where
  /-- One color that is repeated: one more than the number says. -/
  | run (count : Fin 128) (cell : Cell d)
  /-- A stretch of colors: one more than the number says, or fewer if it is cut short. -/
  | stretch (count : Fin 128) (cells : List (Cell d)) (fits : cells.length ≤ count + 1)

namespace Packet

/-- How many colors a packet announces. -/
def length : Packet d → Nat
  | run count _ => count + 1
  | stretch count _ _ => count + 1

/-- The cells that a packet holds, repetitions included. -/
def cells : Packet d → List (Cell d)
  | run count cell => List.replicate (count + 1) cell
  | stretch _ cells _ => cells

/-- A packet holds everything that it announces. -/
def Whole (p : Packet d) : Prop := p.cells.length = p.length

/-- The bytes of a packet: its kind and number, then what is repeated or the stretch. -/
def bytes : Packet d → Bytes
  | run count cell => UInt8.ofNat (128 + count) :: cell.bytes
  | stretch count cells _ => UInt8.ofNat count :: image cells

end Packet

/-- The bytes of packets one after the other. -/
def stream (ps : List (Packet d)) : Bytes := ps.flatMap Packet.bytes

/-- The cells of packets one after the other. -/
def expansion (ps : List (Packet d)) : List (Cell d) := ps.flatMap Packet.cells

/-- Packets hold as many cells as are needed and the last one starts before that many; only that one
may be cut short. -/
structure Covers (needed : Nat) (init : List (Packet d)) (last : Packet d) : Prop where
  /-- Every packet but the last one is whole. -/
  whole : ∀ p ∈ init, p.Whole
  /-- The last packet is not there in vain. -/
  short : (expansion init).length < needed
  /-- There are enough cells. -/
  enough : needed ≤ (expansion (init ++ [last])).length

/-- The bytes that a reader leaves of a packet: cells of a stretch that it does not need. -/
def Packet.excess (needed : Nat) : Packet d → Bytes
  | run _ _ => []
  | stretch _ cells _ => image (cells.drop needed)

/-- The colors that are read from packets. -/
def spelled (needed : Nat) (ps : List (Packet d)) : List Color :=
  ((expansion ps).take needed).map Cell.color

/-- The first byte of a packet tells its kind and number. -/
lemma head_cases (head : UInt8) : ∃ count : Fin 128, (head &&& 0x7f).toNat = count ∧
    ((head &&& 0x80 != 0) = true ∧ head = UInt8.ofNat (128 + count) ∨
      (head &&& 0x80 != 0) = false ∧ head = UInt8.ofNat count) := by
  have hall : ∀ n < 256, (UInt8.ofNat n &&& 0x7f).toNat < 128 ∧
      ((UInt8.ofNat n &&& 0x80 != 0) = true ∧
          UInt8.ofNat n = UInt8.ofNat (128 + (UInt8.ofNat n &&& 0x7f).toNat) ∨
        (UInt8.ofNat n &&& 0x80 != 0) = false ∧
          UInt8.ofNat n = UInt8.ofNat (UInt8.ofNat n &&& 0x7f).toNat) := by decide +kernel
  obtain ⟨hlt, hkind⟩ := hall head.toNat head.toNat_lt
  rw [UInt8.ofNat_toNat] at hlt hkind
  exact ⟨⟨_, hlt⟩, rfl, hkind⟩

/-- The first byte of a run. -/
lemma head_run (count : Fin 128) : (UInt8.ofNat (128 + count) &&& 0x7f).toNat = count ∧
    (UInt8.ofNat (128 + count) &&& 0x80 != 0) = true := by
  revert count
  decide +kernel

/-- The first byte of a stretch. -/
lemma head_stretch (count : Fin 128) : (UInt8.ofNat count &&& 0x7f).toNat = count ∧
    (UInt8.ofNat count &&& 0x80 != 0) = false := by
  revert count
  decide +kernel

/-- What is read is a packet: whole, or cut to what is needed. -/
lemma exists_packet_of_packet {needed : Nat} {head : UInt8} {bytes rest : Bytes}
    {colors : List Color} (h : packet d needed head bytes = .ok (colors, rest)) :
    ∃ p : Packet d, head :: bytes = p.bytes ++ rest ∧ (p.Whole ∨ p.cells.length = needed) ∧
      colors = (p.cells.take needed).map Cell.color := by
  obtain ⟨count, hcount, ⟨hkind, rfl⟩ | ⟨hkind, rfl⟩⟩ := head_cases head
  · rw [packet, hcount, if_pos hkind] at h
    cases hraw : raw d 1 bytes with
    | error f =>
      rw [hraw] at h
      cases h
    | ok r =>
      obtain ⟨cells, hlen, rfl, hcolors⟩ := raw_eq_ok_iff.mp hraw
      obtain ⟨c, rfl⟩ := List.length_eq_one_iff.mp hlen
      rw [hraw] at h
      cases h
      refine ⟨.run count c, ?_, Or.inl (by simp [Packet.Whole, Packet.cells, Packet.length]), ?_⟩
      · simp [Packet.bytes, image]
      · simp [hcolors, Packet.cells, List.take_replicate, Nat.min_comm]
  · rw [packet, hcount, if_neg (Bool.eq_false_iff.mp hkind)] at h
    obtain ⟨cells, hlen, rfl, rfl⟩ := raw_eq_ok_iff.mp h
    have hfits : cells.length ≤ count + 1 := by omega
    refine ⟨.stretch count cells hfits, rfl, ?_, ?_⟩
    · rcases Nat.le_total (count.val + 1) needed with hle | hle
      · exact Or.inl (hlen.trans (Nat.min_eq_left hle))
      · exact Or.inr (hlen.trans (Nat.min_eq_right hle))
    · rw [Packet.cells, List.take_of_length_le (by omega)]

/-- A packet that is whole or holds what is needed is read. -/
lemma exists_packet_bytes (p : Packet d) (needed : Nat) (h : p.Whole ∨ needed ≤ p.cells.length)
    (rest : Bytes) : ∃ head payload, p.bytes = head :: payload ∧
      packet d needed head (payload ++ rest) =
        .ok ((p.cells.take needed).map Cell.color, p.excess needed ++ rest) := by
  cases p with
  | run count c =>
    obtain ⟨hcount, hkind⟩ := head_run count
    refine ⟨_, _, rfl, ?_⟩
    have hraw : raw d 1 (c.bytes ++ rest) = .ok ([c.color], rest) :=
      raw_eq_ok_iff.mpr ⟨[c], rfl, by simp [image], rfl⟩
    rw [packet, hcount, if_pos hkind, hraw]
    simp [Packet.cells, Packet.excess, List.take_replicate, Nat.min_comm, Bind.bind, Except.bind,
      pure, Except.pure]
  | stretch count cells fits =>
    obtain ⟨hcount, hkind⟩ := head_stretch count
    refine ⟨_, _, rfl, ?_⟩
    have hlen : (cells.take (min (count.val + 1) needed)).length = min (count.val + 1) needed := by
      rw [List.length_take]
      rcases h with h | h
      · rw [Packet.Whole, Packet.cells, Packet.length] at h
        omega
      · rw [Packet.cells] at h
        omega
    have htake : cells.take (min (count.val + 1) needed) = cells.take needed := by
      rw [Nat.min_comm, ← List.take_take, List.take_of_length_le fits]
    have hdrop : image cells = image (cells.take needed) ++ image (cells.drop needed) := by
      rw [image, image, image, ← List.flatMap_append, List.take_append_drop]
    rw [packet, hcount, if_neg (Bool.eq_false_iff.mp hkind)]
    refine raw_eq_ok_iff.mpr ⟨_, hlen, ?_, ?_⟩
    · rw [htake, hdrop, List.append_assoc]
      rfl
    · rw [htake, Packet.cells]

/-! ## Packets one after the other -/

/-- The bytes of a packet come before those of the packets behind it. -/
lemma stream_cons (p : Packet d) (ps : List (Packet d)) : stream (p :: ps) = p.bytes ++ stream ps :=
  rfl

/-- The cells of a packet come before those of the packets behind it. -/
lemma expansion_cons (p : Packet d) (ps : List (Packet d)) :
    expansion (p :: ps) = p.cells ++ expansion ps := rfl

/-- The colors of a packet come before those of the packets behind it. -/
lemma spelled_cons (needed : Nat) (p : Packet d) (ps : List (Packet d)) :
    spelled needed (p :: ps) = (p.cells.take needed).map Cell.color ++
      spelled (needed - p.cells.length) ps := by
  rw [spelled, expansion_cons, List.take_append, List.map_append]
  rfl

/-- What is needed behind a packet. -/
lemma sub_length_colors (needed : Nat) (p : Packet d) :
    needed - ((p.cells.take needed).map Cell.color).length = needed - p.cells.length := by
  rw [List.length_map, List.length_take]
  omega

/-- A packet that is enough by itself. -/
lemma covers_nil {needed : Nat} {last : Packet d} (hpos : 0 < needed)
    (henough : needed ≤ last.cells.length) : Covers needed [] last :=
  ⟨by simp, hpos, by simpa [expansion] using henough⟩

/-- A packet in front takes its share of what is needed. -/
lemma covers_cons {needed : Nat} {p last : Packet d} {init : List (Packet d)} :
    Covers needed (p :: init) last ↔ p.Whole ∧ p.cells.length < needed ∧
      Covers (needed - p.cells.length) init last := by
  constructor
  · intro h
    have hshort := h.short
    have henough := h.enough
    rw [List.cons_append, expansion_cons, List.length_append] at henough
    rw [expansion_cons, List.length_append] at hshort
    obtain ⟨hp, hinit⟩ := List.forall_mem_cons.mp h.whole
    exact ⟨hp, by omega, hinit, by omega, by omega⟩
  · rintro ⟨hp, hlt, h⟩
    have hshort := h.short
    have henough := h.enough
    refine ⟨List.forall_mem_cons.mpr ⟨hp, h.whole⟩, ?_, ?_⟩
    · rw [expansion_cons, List.length_append]
      omega
    · rw [List.cons_append, expansion_cons, List.length_append]
      omega

/-- A packet that is whole or holds what is needed is read, and then what is behind it. -/
lemma packed_cons {p : Packet d} {fuel needed : Nat} {rest : Bytes} {ps : List (Packet d)}
    (hpos : 0 < needed) (hp : p.Whole ∨ needed ≤ p.cells.length)
    (hrest : packed d fuel (needed - p.cells.length) (p.excess needed ++ rest) =
      .ok (spelled (needed - p.cells.length) ps)) :
    packed d (fuel + 1) needed (p.bytes ++ rest) = .ok (spelled needed (p :: ps)) := by
  obtain ⟨head, payload, hbytes, hpacket⟩ := exists_packet_bytes p needed hp rest
  obtain ⟨n, rfl⟩ : ∃ n, needed = n + 1 := ⟨needed - 1, by omega⟩
  rw [hbytes, List.cons_append, packed, hpacket, spelled_cons]
  show (packed d fuel (n + 1 - ((p.cells.take (n + 1)).map Cell.color).length)
    (p.excess (n + 1) ++ rest) >>= fun cs => .ok ((p.cells.take (n + 1)).map Cell.color ++ cs)) = _
  rw [sub_length_colors, hrest]
  rfl

/-- Packets are read one after the other, if there are no more of them than the reader allows for.

**Proof sketch.** Induction on the packets in front. The last packet gives enough, so that the
reader stops behind it. A packet in front of others is whole and cuts nothing off, so that the
induction hypothesis is about the bytes that are left (`packed_cons`). -/
lemma packed_of_covers {init : List (Packet d)} {last : Packet d} (trailing : Bytes) :
    ∀ {fuel needed : Nat}, init.length < fuel → Covers needed init last →
      packed d fuel needed (stream (init ++ [last]) ++ trailing) =
        .ok (spelled needed (init ++ [last])) := by
  induction init with
  | nil =>
    intro fuel needed hfuel h
    obtain ⟨k, rfl⟩ : ∃ k, fuel = k + 1 := ⟨fuel - 1, by omega⟩
    have henough : needed ≤ last.cells.length := by simpa [expansion] using h.enough
    have hnone : needed - last.cells.length = 0 := by omega
    have hread : packed d k (needed - last.cells.length) (last.excess needed ++ trailing) =
        .ok (spelled (d := d) (needed - last.cells.length) []) := by
      rw [hnone, packed]
      rfl
    have hbytes : stream ([] ++ [last]) ++ trailing = last.bytes ++ trailing := by
      simp [stream]
    rw [hbytes]
    exact packed_cons h.short (Or.inr henough) hread
  | cons p init ih =>
    intro fuel needed hfuel h
    obtain ⟨k, rfl⟩ : ∃ k, fuel = k + 1 := ⟨fuel - 1, by omega⟩
    obtain ⟨hwhole, hlt, hcovers⟩ := covers_cons.mp h
    have hexcess : p.excess needed = [] := by
      cases p with
      | run count c => rfl
      | stretch count cells fits =>
        rw [Packet.excess, List.drop_of_length_le (by rw [Packet.cells] at hlt; omega)]
        rfl
    have hread : packed d k (needed - p.cells.length)
        (p.excess needed ++ (stream (init ++ [last]) ++ trailing)) =
          .ok (spelled (needed - p.cells.length) (init ++ [last])) := by
      rw [hexcess, List.nil_append]
      exact ih (by simpa using hfuel) hcovers
    rw [List.cons_append, stream_cons, List.append_assoc]
    exact packed_cons (by omega) (Or.inl hwhole) hread

/-- What a reader of packets accepts starts with packets that hold what it needs.

**Proof sketch.** Induction along the reader. The packet that was read is whole or the last one
(`exists_packet_of_packet`). If it has fewer colors than needed it is whole, and goes before the
packets of the induction hypothesis; otherwise nothing is needed any more, and it is the last. -/
lemma exists_covers_of_packed {fuel needed : Nat} {bytes : Bytes} {colors : List Color}
    (hpos : 0 < needed) (h : packed d fuel needed bytes = .ok colors) :
    ∃ (init : List (Packet d)) (last : Packet d) (trailing : Bytes), Covers needed init last ∧
      bytes = stream (init ++ [last]) ++ trailing ∧ colors = spelled needed (init ++ [last]) := by
  fun_induction packed d fuel needed bytes generalizing colors with
  | case1 => omega
  | case2 => cases h
  | case3 => cases h
  | case4 fuel n head bytes ih =>
    cases hpacket : packet d (n + 1) head bytes with
    | error f =>
      rw [hpacket] at h
      cases h
    | ok r =>
      obtain ⟨cs, rest⟩ := r
      rw [hpacket] at h
      obtain ⟨p, hbytes, hp, rfl⟩ := exists_packet_of_packet hpacket
      have hleft := sub_length_colors (n + 1) p
      cases hrest : packed d fuel (n + 1 - ((p.cells.take (n + 1)).map Cell.color).length) rest with
      | error f =>
        simp only [Bind.bind, Except.bind, hrest] at h
        cases h
      | ok cs =>
        simp only [Bind.bind, Except.bind, hrest] at h
        cases h
        rw [hleft] at hrest
        rcases Nat.lt_or_ge p.cells.length (n + 1) with hlt | hge
        · -- the packet is not enough, so it is whole and others follow
          have hwhole : p.Whole := hp.resolve_right (by omega)
          obtain ⟨init, last, trailing, hcovers, rfl, rfl⟩ :=
            ih _ _ (by rw [hleft]; omega) (by rw [hleft]; exact hrest)
          rw [hleft] at hcovers
          refine ⟨p :: init, last, trailing, covers_cons.mpr ⟨hwhole, hlt, hcovers⟩, ?_, ?_⟩
          · rw [hbytes, List.cons_append, stream_cons, List.append_assoc]
          · rw [List.cons_append, spelled_cons, hleft]
        · have hnone : n + 1 - p.cells.length = 0 := by omega
          rw [hnone, packed] at hrest
          cases hrest
          refine ⟨[], p, rest, covers_nil hpos hge, ?_, ?_⟩
          · simpa [stream] using hbytes
          · rw [List.nil_append, spelled_cons, hnone]
            rfl

/-- Every packet takes a byte. -/
lemma length_le_length_stream (ps : List (Packet d)) : ps.length ≤ (stream ps).length := by
  induction ps with
  | nil => simp
  | cons p ps ih =>
    have hp : 0 < p.bytes.length := by cases p <;> simp [Packet.bytes]
    rw [stream_cons, List.length_append, List.length_cons]
    omega

/-- **Packets one after the other**: what is accepted starts with packets that hold what is needed,
and all of those are accepted, whatever follows them. -/
lemma packed_eq_ok_iff {needed : Nat} (hpos : 0 < needed) {bytes : Bytes} {colors : List Color} :
    packed d (bytes.length + 1) needed bytes = .ok colors ↔
      ∃ (init : List (Packet d)) (last : Packet d) (trailing : Bytes), Covers needed init last ∧
        bytes = stream (init ++ [last]) ++ trailing ∧ colors = spelled needed (init ++ [last]) := by
  constructor
  · exact exists_covers_of_packed hpos
  · rintro ⟨init, last, trailing, hcovers, rfl, rfl⟩
    refine packed_of_covers trailing ?_ hcovers
    have hlen := length_le_length_stream (init ++ [last])
    rw [List.length_append, List.length_singleton] at hlen
    rw [List.length_append]
    omega

/-! ## Headers -/

/-- The first bytes of the picture in which all colors are spelled out: only the type differs. -/
def unpackedHead (head : Bytes) : Bytes := head.modify 2 (· - 8)

/-- **Accepted headers**, field by field.

**Proof sketch.** Forwards, the cases of the reader: a color map, an unknown depth and an empty
picture are refused, and the bytes in front of the sizes are nine that are not looked at. Backwards,
nine bytes are spelled out, so that the reader can be evaluated. -/
lemma parse_eq_ok_iff {data rest : Bytes} {h : Header} : Header.parse data = .ok (h, rest) ↔
    ∃ (idLength type : UInt8) (unused : Bytes) (w0 w1 h0 h1 bits descriptor : UInt8),
      unused.length = 9 ∧ data = idLength :: 0 :: type ::
        (unused ++ w0 :: w1 :: h0 :: h1 :: bits :: descriptor :: rest) ∧
      depthOf type bits = .ok h.depth ∧ word w0 w1 ≠ 0 ∧ word h0 h1 ≠ 0 ∧
      h = ⟨idLength.toNat, word w0 w1, word h0 h1, h.depth, type == 10 || type == 11,
        descriptor &&& 0x20 != 0⟩ := by
  constructor
  · intro hparse
    unfold Header.parse at hparse
    split at hparse
    · rename_i idLength mapType type a b c d e f g i j w0 w1 h0 h1 bits descriptor rest'
      by_cases hmap : mapType = 0
      swap
      · have hmapped : (mapType != 0) = true := bne_iff_ne.mpr hmap
        simp only [hmapped] at hparse
        cases hparse
      subst hmap
      cases hdepth : depthOf type bits with
      | error f =>
        simp only [hdepth] at hparse
        cases hparse
      | ok depth =>
        by_cases hempty : (word w0 w1 == 0 || word h0 h1 == 0) = true
        · simp only [hdepth, hempty] at hparse
          cases hparse
        · simp only [hdepth, hempty] at hparse
          cases hparse
          rw [Bool.or_eq_true, not_or, beq_iff_eq, beq_iff_eq] at hempty
          exact ⟨idLength, type, [a, b, c, d, e, f, g, i, j], w0, w1, h0, h1, bits, descriptor,
            rfl, rfl, hdepth, hempty.1, hempty.2, rfl⟩
    · cases hparse
  · rintro ⟨idLength, type, unused, w0, w1, h0, h1, bits, descriptor, hlen, rfl, hdepth, hw, hh, heq⟩
    match unused, hlen with
    | [a, b, c, d, e, f, g, i, j], _ =>
      have hempty : (word w0 w1 == 0 || word h0 h1 == 0) = false := by simp [hw, hh]
      simp only [List.cons_append, List.nil_append, Header.parse, hdepth, hempty]
      rw [heq]
      rfl

/-- A header does not depend on what follows it. -/
lemma parse_append {data rest : Bytes} {h : Header} (hparse : Header.parse data = .ok (h, rest))
    (tail : Bytes) : Header.parse (data ++ tail) = .ok (h, rest ++ tail) := by
  obtain ⟨idLength, type, unused, w0, w1, h0, h1, bits, descriptor, hlen, rfl, hfields⟩ :=
    parse_eq_ok_iff.mp hparse
  exact parse_eq_ok_iff.mpr ⟨idLength, type, unused, w0, w1, h0, h1, bits, descriptor, hlen,
    by simp, hfields⟩

/-- A header with its type changed says the same, except that nothing is packed. -/
lemma parse_unpackedHead {head rest : Bytes} {h : Header}
    (hparse : Header.parse head = .ok (h, rest)) (hpacked : h.packed = true) :
    Header.parse (unpackedHead head) = .ok ({ h with packed := false }, rest) := by
  obtain ⟨idLength, type, unused, w0, w1, h0, h1, bits, descriptor, hlen, rfl, hdepth, hw, hh, heq⟩ :=
    parse_eq_ok_iff.mp hparse
  have htype : type = 10 ∨ type = 11 := by
    rw [heq] at hpacked
    simpa using hpacked
  have hsame : depthOf (type - 8) bits = .ok h.depth := by
    rw [← hdepth]
    rcases htype with rfl | rfl <;> rfl
  refine parse_eq_ok_iff.mpr ⟨idLength, type - 8, unused, w0, w1, h0, h1, bits, descriptor, hlen,
    rfl, hsame, hw, hh, ?_⟩
  rw [heq]
  rcases htype with rfl | rfl <;> rfl

/-- An accepted header is that of a picture with colors. -/
lemma area_pos {data rest : Bytes} {h : Header} (hparse : Header.parse data = .ok (h, rest)) :
    0 < h.width * h.height := by
  obtain ⟨idLength, type, unused, w0, w1, h0, h1, bits, descriptor, -, -, -, hw, hh, heq⟩ :=
    parse_eq_ok_iff.mp hparse
  rw [heq]
  exact Nat.mul_pos (Nat.pos_of_ne_zero hw) (Nat.pos_of_ne_zero hh)

/-! ## Pictures -/

/-- The picture of colors in file order. -/
def Header.arrange (h : Header) (cs : List Color) : Picture :=
  ⟨h.width, h.height, (if h.topDown then chunks h.width h.height cs
    else (chunks h.width h.height cs).reverse).flatten⟩

/-- What follows a header that was read. -/
lemma decode_of_parse {data rest : Bytes} {h : Header} (hparse : Header.parse data = .ok (h, rest)) :
    decode data = if h.idLength > rest.length then .error (corrupt "truncated id field")
      else (colors h (rest.drop h.idLength)).map h.arrange := by
  unfold decode
  rw [hparse]
  show (if h.idLength > rest.length then _ else _) = _
  by_cases hid : h.idLength > rest.length
  · rw [if_pos hid, if_pos hid]
    rfl
  · rw [if_neg hid, if_neg hid]
    cases colors h (rest.drop h.idLength) <;> rfl

/-- A picture is read from what follows the header and its id field. -/
lemma decode_eq_ok_iff {data : Bytes} {picture : Picture} : decode data = .ok picture ↔
    ∃ h id body cs, Header.parse data = .ok (h, id ++ body) ∧ id.length = h.idLength ∧
      colors h body = .ok cs ∧ picture = h.arrange cs := by
  constructor
  · intro hdecode
    cases hparse : Header.parse data with
    | error f =>
      rw [decode, hparse] at hdecode
      cases hdecode
    | ok r =>
      obtain ⟨h, rest⟩ := r
      rw [decode_of_parse hparse] at hdecode
      split_ifs at hdecode with hid
      cases hcolors : colors h (rest.drop h.idLength) with
      | error f =>
        rw [hcolors] at hdecode
        cases hdecode
      | ok cs =>
        rw [hcolors] at hdecode
        cases hdecode
        refine ⟨h, rest.take h.idLength, rest.drop h.idLength, cs, ?_, ?_, hcolors, rfl⟩
        · rw [List.take_append_drop]
        · rw [List.length_take]
          omega
  · rintro ⟨h, id, body, cs, hparse, hid, hcolors, rfl⟩
    have hlen : ¬ h.idLength > (id ++ body).length := by
      rw [List.length_append]
      omega
    rw [decode_of_parse hparse, if_neg hlen, ← hid, List.drop_left, hcolors]
    rfl

/-- A picture whose colors are spelled out is read if all of them are there. -/
lemma colors_of_cells {h : Header} (hpacked : h.packed = false) {cells : List (Cell h.depth)}
    (hlen : cells.length = h.width * h.height) (rest : Bytes) :
    colors h (image cells ++ rest) = .ok (cells.map Cell.color) := by
  have hbytes : ¬ (image cells ++ rest).length < h.width * h.height * h.depth.size := by
    rw [List.length_append, length_image, hlen]
    omega
  have hraw : raw h.depth (h.width * h.height) (image cells ++ rest) =
      .ok (cells.map Cell.color, rest) := raw_eq_ok_iff.mpr ⟨cells, hlen, rfl, rfl⟩
  rw [colors, hpacked]
  simp only [Bool.false_eq_true, if_false, if_neg hbytes, hraw]
  rfl

/-- The colors of a packed picture are in packets that hold one for each place. -/
lemma colors_eq_ok_iff_of_packed {h : Header} (hpacked : h.packed = true)
    (hpos : 0 < h.width * h.height) {body : Bytes} {cs : List Color} :
    colors h body = .ok cs ↔ ∃ (init : List (Packet h.depth)) (last : Packet h.depth)
      (trailing : Bytes), Covers (h.width * h.height) init last ∧
        body = stream (init ++ [last]) ++ trailing ∧
        cs = spelled (h.width * h.height) (init ++ [last]) := by
  rw [colors, if_pos hpacked, packed_eq_ok_iff hpos]

/-! ## Failures -/

/-- Nothing but a picture that is corrupt or of an unsupported kind is in the way. -/
def Corrupt {α : Type} (r : Except Failure α) : Prop := ∀ f, r = .error f → f.cause = .targa

namespace Corrupt

variable {α β : Type}

/-- A value is no failure. -/
lemma ok (a : α) : Corrupt (.ok a : Except Failure α) := fun _ h => nomatch h

/-- A failure of reading a picture. -/
lemma error (reason : String) : Corrupt (.error (corrupt reason) : Except Failure α) := by
  intro f h
  cases h
  rfl

/-- One step after the other. -/
lemma bind {r : Except Failure α} {f : α → Except Failure β} (h : Corrupt r)
    (hf : ∀ a, Corrupt (f a)) : Corrupt (r >>= f) := by
  cases r with
  | error e => exact fun e' he => h e' (by cases he; rfl)
  | ok a => exact hf a

/-- A value that is changed. -/
lemma map {r : Except Failure α} (h : Corrupt r) (f : α → β) : Corrupt (r.map f) := by
  cases r with
  | error e => exact fun e' he => h e' (by cases he; rfl)
  | ok a => exact .ok _

end Corrupt

/-- Reading colors one after the other. -/
lemma raw_corrupt (n : Nat) (bytes : Bytes) : Corrupt (raw d n bytes) := by
  induction n generalizing bytes with
  | zero => exact .ok _
  | succ n ih =>
    rw [raw]
    split
    · exact .error _
    · exact (ih _).bind fun _ => .ok _

/-- Reading packets one after the other. -/
lemma packed_corrupt (fuel needed : Nat) (bytes : Bytes) : Corrupt (packed d fuel needed bytes) := by
  fun_induction packed d fuel needed bytes with
  | case1 => exact .ok _
  | case2 => exact .error _
  | case3 => exact .error _
  | case4 fuel n head bytes ih =>
    have hpacket : Corrupt (packet d (n + 1) head bytes) := by
      rw [packet]
      split_ifs
      · exact (raw_corrupt 1 bytes).bind fun _ => .ok _
      · exact raw_corrupt _ bytes
    exact hpacket.bind fun r => (ih r.1 r.2).bind fun _ => .ok _

/-- Reading a header. -/
lemma parse_corrupt (data : Bytes) : Corrupt (Header.parse data) := by
  unfold Header.parse
  split
  · have hdepth : ∀ type bits, Corrupt (depthOf type bits) := by
      intro type bits
      unfold depthOf
      split_ifs
      all_goals first | exact .ok _ | exact .error _
    dsimp only
    split_ifs
    all_goals first
      | exact (hdepth _ _).bind fun _ => .ok _
      | exact (hdepth _ _).bind fun _ => .error _
      | exact .error _
  · exact .error _

/-- **Reading a picture** fails only because of the picture. -/
lemma decode_corrupt (data : Bytes) : Corrupt (decode data) := by
  have hcolors : ∀ h bytes, Corrupt (colors h bytes) := by
    intro h bytes
    rw [colors]
    split_ifs
    · exact packed_corrupt _ _ bytes
    · exact .error _
    · exact (raw_corrupt _ bytes).map _
  cases hparse : Header.parse data with
  | error f =>
    rw [decode, hparse]
    exact fun f' hf => parse_corrupt data f' (by rw [hparse]; cases hf; rfl)
  | ok r =>
    rw [decode_of_parse hparse]
    split_ifs
    · exact .error _
    · exact (hcolors _ _).map _

/-- **Packed pictures and what they spell.**

A packed picture whose packets hold a color for each place is the same picture as the one in which
these colors are spelled out, for every accepted header and whatever follows the packets; the last
packet may be cut to what is needed. Conversely a packed picture is only read from such packets, and
whatever cannot be read is corrupt.

**Proof sketch.** One packet gives the colors of its cells as far as they are needed
(`exists_packet_bytes`, `exists_packet_of_packet`). By induction over the packets, and over what was
read, a number of colors is read exactly from packets that cover it (`packed_eq_ok_iff`). The header
of the other picture differs in its type only (`parse_unpackedHead`), so its colors are the cells
themselves (`colors_of_cells`). -/
theorem decode_packed :
    (∀ (head id trailing : Bytes) (h : Header) (init : List (Packet h.depth))
      (last : Packet h.depth), Header.parse head = .ok (h, []) → h.packed = true →
      id.length = h.idLength → Covers (h.width * h.height) init last →
      ∃ picture, decode (head ++ id ++ stream (init ++ [last]) ++ trailing) = .ok picture ∧
        decode (unpackedHead head ++ id ++
          image ((expansion (init ++ [last])).take (h.width * h.height))) = .ok picture) ∧
    ∀ data : Bytes, (∃ f, decode data = .error f ∧ f.cause = .targa) ∨
      ∃ picture h rest, decode data = .ok picture ∧ Header.parse data = .ok (h, rest) ∧
        (h.packed = true → ∃ (id : Bytes) (init : List (Packet h.depth)) (last : Packet h.depth)
          (trailing : Bytes), rest = id ++ stream (init ++ [last]) ++ trailing ∧
            id.length = h.idLength ∧ Covers (h.width * h.height) init last) := by
  constructor
  · intro head id trailing h init last hparse hpacked hid hcovers
    have hcells : ((expansion (init ++ [last])).take (h.width * h.height)).length =
        h.width * h.height := by
      rw [List.length_take]
      exact Nat.min_eq_left hcovers.enough
    refine ⟨h.arrange (spelled (h.width * h.height) (init ++ [last])), ?_, ?_⟩
    · refine decode_eq_ok_iff.mpr ⟨h, id, stream (init ++ [last]) ++ trailing, _, ?_, hid,
        (colors_eq_ok_iff_of_packed hpacked (area_pos hparse)).mpr
          ⟨init, last, trailing, hcovers, rfl, rfl⟩, rfl⟩
      simpa using parse_append hparse (id ++ (stream (init ++ [last]) ++ trailing))
    · have hraw := colors_of_cells (h := { h with packed := false }) rfl hcells []
      rw [List.append_nil] at hraw
      refine decode_eq_ok_iff.mpr ⟨{ h with packed := false }, id, _, _, ?_, hid, hraw, rfl⟩
      simpa using parse_append (parse_unpackedHead hparse hpacked) (id ++
        image ((expansion (init ++ [last])).take (h.width * h.height)))
  · intro data
    cases hdecode : decode data with
    | error f => exact Or.inl ⟨f, rfl, decode_corrupt data f hdecode⟩
    | ok picture =>
      obtain ⟨h, id, body, cs, hparse, hid, hcolors, -⟩ := decode_eq_ok_iff.mp hdecode
      refine Or.inr ⟨picture, h, id ++ body, rfl, hparse, fun hpacked => ?_⟩
      obtain ⟨init, last, trailing, hcovers, rfl, -⟩ :=
        (colors_eq_ok_iff_of_packed hpacked (area_pos hparse)).mp hcolors
      exact ⟨id, init, last, trailing, (List.append_assoc _ _ _).symm, hid, hcovers⟩

/-- Three colors in each of two rows: a run goes on in the second row, and the stretch behind it
announces four colors but carries the two that are missing. -/
theorem decode_packed_cutStretch :
    ∃ picture, decode [1, 0, 10, 0, 0, 0, 0, 0, 0, 0, 0, 0, 3, 0, 2, 0, 24, 0, 7,
        131, 1, 2, 3, 3, 4, 5, 6, 7, 8, 9, 99] = .ok picture ∧
      decode [1, 0, 2, 0, 0, 0, 0, 0, 0, 0, 0, 0, 3, 0, 2, 0, 24, 0, 7,
        1, 2, 3, 1, 2, 3, 1, 2, 3, 1, 2, 3, 4, 5, 6, 7, 8, 9] = .ok picture := by
  have hcovers : Covers (d := .bgr) 6 [.run 3 ⟨[1, 2, 3], rfl⟩]
      (.stretch 3 [⟨[4, 5, 6], rfl⟩, ⟨[7, 8, 9], rfl⟩] (by decide)) :=
    ⟨List.forall_mem_singleton.mpr rfl, by decide, by decide⟩
  exact decode_packed.1 [1, 0, 10, 0, 0, 0, 0, 0, 0, 0, 0, 0, 3, 0, 2, 0, 24, 0] [7] [99]
    ⟨1, 3, 2, .bgr, true, false⟩ _ _ rfl rfl rfl hcovers

end SceneForge.Targa
