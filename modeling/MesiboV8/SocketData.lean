/-
  MesiboV8.SocketData — the strings a socket's `ondata` function gets for a byte stream.

  `js_mesibo_socket_ondata` decodes each chunk for itself. A call of it on a socket context
  that has its module and function invokes the function once, with the chunk's string
  (`ondata_step`); a chunk V8 cannot hold ends the process. So the strings make up the
  stream exactly if no chunk is that long and no cut lies inside a character
  (`chunks_delivered_iff`).
-/

import MesiboV8.Lib.Chunks
import MesiboV8.HttpClose
import MesiboV8.Host

namespace MesiboV8

open Lib.Bytes Lib.Utf Lib.Effects Lib.Runs Act

variable {P : Platform}

/-! ## A socket context -/

/-- The socket context at `a` stays. -/
def World.SocketKept (a : Addr) (w u : World) : Prop := a < w.nextAddr → a < u.nextAddr ∧ u.sockets a = w.sockets a

instance (a : Addr) : Std.Refl (World.SocketKept a) := ⟨fun _ h => ⟨h, rfl⟩⟩
instance (a : Addr) : IsTrans World (World.SocketKept a) := ⟨fun _ _ _ h g ha =>
  ⟨(g (h ha).1).1, (g (h ha).1).2.trans (h ha).2⟩⟩

theorem socketKept_nativeFrame (a : Addr) : NativeFrame (World.SocketKept a) where
  js := fun _ _ _ _ _ _ _ h => ⟨h, rfl⟩
  request := fun _ _ h => ⟨Nat.lt_succ_of_lt h, rfl⟩
  socket := fun _ _ h => ⟨Nat.lt_succ_of_lt h, Function.update_of_ne (Nat.ne_of_lt h) _ _⟩

theorem socketKept_loadFrame (hP : P.Sandboxed) (a : Addr) : LoadFrame P (World.SocketKept a) where
  refl := fun _ h => ⟨h, rfl⟩
  trans := IsTrans.trans _ _ _
  statics := fun _ _ h => ⟨h, rfl⟩
  newInstance := fun _ _ h => ⟨h, rfl⟩
  globals := fun _ _ _ h => ⟨h, rfl⟩
  run := fun context script w => (socketKept_nativeFrame a).scriptRun (hP.run context script w)

theorem executeJsFunctionObj_socketKept (hP : P.Sandboxed) (a : Addr) (context : CtxId) (f : JsVal) (args : List JsVal)
    (w : World) : World.SocketKept a w (executeJsFunctionObj P context f args w).2 := by
  have h := (socketKept_nativeFrame a).scriptRun
    (hP.call context f args { w with invoked := w.invoked ++ [⟨f, args, w.heap⟩] })
  rw [executeJsFunctionObj_world]
  exact h

/-- A socket context with its module, `ondata` function and `cbdata`. -/
structure SocketOpen (a : Addr) (mod : ModId) (f d : JsVal) (s : System) : Prop where
  addr : a < s.world.nextAddr
  context : ∃ b, s.world.sockets a = some b ∧ b.mod = some mod ∧ b.jsOndata = some f ∧ b.jsCbdata = some d
  ready : s.Ready mod

/-! ## A chunk -/

/-- The host hands over a chunk of the stream. -/
def ondata (P : Platform) (a : Addr) (fs : ScriptFile) (s : System) (b : List UInt8) : Except Fault System :=
  System.returned (jsMesiboSocketOndata P a (Mem.ofList b) (.ofNat b.length) fs s)

/-- The string the function of a socket is called with. -/
def Invocation.string (i : Invocation) : JsString :=
  match i.args with
  | [_, .str string, _] => string
  | _ => []

theorem newFromUtf8Len_chunk {b : List UInt8} (hb : b.length < 2 ^ 31) :
    newFromUtf8Len P (Mem.ofList b) (.ofNat b.length) = P.newFromUtf8 b := by
  have hn : (Int64.ofNat b.length).toInt32.toInt = b.length := by
    rw [Int64.toInt_toInt32, Int64.toInt_ofNat_of_lt (by omega), Int.bmod_def]
    split <;> omega
  rw [newFromUtf8Len, hn, if_neg (by omega), Int.toNat_natCast, Mem.read_ofList]

theorem callSocketFunction_eq {sc : SocketContext} {d : JsVal} (hd : sc.jsCbdata = some d) (context : CtxId) (f : JsVal)
    (args : List JsVal) (w : World) : callSocketFunction P (some context) sc f args w =
      .ok (executeJsFunctionObj P context f (d :: args) w) := by
  obtain ⟨_, _, _, _⟩ := sc
  cases hd
  rfl

section Step

variable {a : Addr} {mod : ModId} {f d : JsVal} {fs : ScriptFile} {s : System}

/-- A call of `ondata` is what `deliverData` makes of a context. -/
theorem ondata_delivers (hP : P.Sandboxed) (hr : fs.access = true → (readFile P fs).isSome) (hs : SocketOpen a mod f d s)
    (b : List UInt8) : ∃ mp context w, mp.context_ = some context ∧ w.invoked = s.world.invoked ∧
      SocketOpen a mod f d (s.lock.putProcessor mod mp w) ∧
      ondata P a fs s b = match deliverData P (some context) a (Mem.ofList b) (.ofNat b.length) w with
        | .error e => .error e
        | .ok (_, u) => .ok (s.lock.putProcessor mod mp u) := by
  obtain ⟨ha, ⟨sc, hsc, hm, hfd⟩, p, hp, hc⟩ := hs
  obtain ⟨vc, hvc, hctx⟩ := Option.bind_eq_some_iff.mp hp
  obtain ⟨st, mp, w, hg, hcon⟩ := (contextReady_iff p fs s.world).mpr (contextReady_of_readable hc hr)
  obtain ⟨context, hcon⟩ := Option.isSome_iff_exists.mp hcon
  obtain ⟨haddr, hkept⟩ := (socketKept_loadFrame hP a).getContext hg ha
  refine ⟨mp, context, w, hcon, (getContext_extends hP hg).invoked, ⟨haddr, ⟨sc, hkept.trans hsc, hm, hfd⟩, mp, ?_, ?_⟩, ?_⟩
  · rw [processor_put, Function.update_self]
  · simp [hcon]
  · simp only [ondata, jsMesiboSocketOndata, onSocket, hsc, hm, hvc, hctx, hg, hcon]
    cases deliverData P (some context) a (Mem.ofList b) (.ofNat b.length) w <;> rfl

/-- With its context a chunk is decoded, and the function called with its string. -/
theorem deliverData_chunk {sc : SocketContext} {w : World} (hf : f.isFunction) (hsc : w.sockets a = some sc)
    (hfun : sc.jsOndata = some f) {b : List UInt8} (hb : b.length < 2 ^ 31) (context : CtxId) :
    deliverData P (some context) a (Mem.ofList b) (.ofNat b.length) w = (do
      let string ← toLocalChecked (P.newFromUtf8 b)
      callSocketFunction P (some context) sc f [.str string, .ofUint32 (Int64.ofNat b.length).toUInt64.toUInt32]) w := by
  have hderef : derefSocket a w = .ok (sc, w) := by
    rw [derefSocket, get_bind, hsc]
    rfl
  have hnull := JsVal.isNullOrUndefined_of_isFunction hf
  have hlen : ¬Int64.ofNat b.length < 0 := by
    rw [Int64.not_lt, Int64.le_iff_toInt_le, Int64.toInt_ofNat_of_lt (by omega)]
    simp
  rw [deliverData, bind_eq hderef, hfun]
  simp only [hnull, hlen, decide_false, Bool.or_self, Bool.false_eq_true, if_false, newFromUtf8Len_chunk hb]

/-- A chunk is one call of the function with the chunk's string, or the end of the process. -/
theorem ondata_step (hP : P.Sandboxed) (hf : f.isFunction) (hr : fs.access = true → (readFile P fs).isSome)
    (hs : SocketOpen a mod f d s) {b : List UInt8} (hb : b.length < 2 ^ 31) :
    (P.newFromUtf8 b = none ∧ ∃ e, ondata P a fs s b = .error e) ∨
    ∃ string t i, P.newFromUtf8 b = some string ∧ ondata P a fs s b = .ok t ∧ SocketOpen a mod f d t ∧
      t.world.invoked = s.world.invoked ++ [i] ∧ i.fn = f ∧ i.string = string := by
  obtain ⟨mp, context, w, hcon, hinv, ⟨ha, ⟨sc, hsc, hm, hfun, hd⟩, hready⟩, ho⟩ := ondata_delivers hP hr hs b
  rw [deliverData_chunk (w := w) hf hsc hfun hb] at ho
  cases hn : P.newFromUtf8 b with
  | none =>
    rw [hn] at ho
    exact .inl ⟨rfl, _, ho⟩
  | some string =>
    generalize JsVal.ofUint32 (Int64.ofNat b.length).toUInt64.toUInt32 = len at ho
    rw [hn, bind_eq (toLocalChecked_some string w), callSocketFunction_eq hd] at ho
    have hext := executeJsFunctionObj_extends hP context f [d, .str string, len] w
    obtain ⟨haddr, hsock⟩ := executeJsFunctionObj_socketKept hP a context f [d, .str string, len] w ha
    refine .inr ⟨string, _, ⟨f, [d, .str string, len], w.heap⟩, rfl, ho,
      ⟨haddr, ⟨sc, hsock.trans hsc, hm, hfun, hd⟩, ?_⟩, ?_, rfl, rfl⟩
    · obtain ⟨p, hp, hpc⟩ := hready
      rw [processor_put] at hp
      exact ⟨p, by rw [processor_put]; exact hp, hpc⟩
    · exact hext.invoked.trans (by rw [hinv])

end Step

/-! ## A stream -/

/-- Well-formed text is decoded, and so is what is not, with U+FFFD for each maximal
    malformed part; longer than a string can be there is none. -/
def Platform.Replacing (P : Platform) : Prop :=
  ∀ b, P.newFromUtf8 b = if b.length ≤ P.kMaxLength then some (utf16 (utf8Decode b)) else none

/-- The chunks are handed over, and the strings the function gets for them make up `text`. -/
def DeliversStream (P : Platform) (a : Addr) (fs : ScriptFile) (f : JsVal) (s : System) (bs : List (List UInt8))
    (text : JsString) : Prop :=
  ∃ t invs, run (ondata P a fs) s bs = .ok t ∧ t.world.invoked = s.world.invoked ++ invs ∧ (∀ i ∈ invs, i.fn = f) ∧
    invs.flatMap (·.string) = text

section Stream

variable {a : Addr} {mod : ModId} {f d : JsVal} {fs : ScriptFile} {s : System} {bs : List (List UInt8)}

theorem utf16_append (cs ds : List Char) : utf16 (cs ++ ds) = utf16 cs ++ utf16 ds := List.flatMap_append

/-- A run of chunks gives the function each chunk's decoding, or ends at one that is too long. -/
theorem ondata_run (hP : P.Sandboxed) (hD : P.Replacing) (hf : f.isFunction)
    (hr : fs.access = true → (readFile P fs).isSome) (hs : SocketOpen a mod f d s) (hb : ∀ b ∈ bs, b.length < 2 ^ 31) :
    ((∃ b ∈ bs, P.kMaxLength < b.length) ∧ ∃ e, run (ondata P a fs) s bs = .error e) ∨
    ((∀ b ∈ bs, b.length ≤ P.kMaxLength) ∧ DeliversStream P a fs f s bs (utf16 (bs.flatMap utf8Decode))) := by
  induction bs generalizing s with
  | nil => exact .inr ⟨by simp, s, [], rfl, by simp, by simp, rfl⟩
  | cons b bs ih =>
    obtain ⟨hb, hbs⟩ := List.forall_mem_cons.mp hb
    rcases ondata_step hP hf hr hs hb with ⟨hn, e, he⟩ | ⟨string, t, i, hstr, ht, hopen, hinv, hfn, hi⟩
    · refine .inl ⟨⟨b, List.mem_cons_self, ?_⟩, e, by rw [run, he]⟩
      rw [hD] at hn
      split at hn
      · cases hn
      · omega
    · rw [hD] at hstr
      split at hstr
      · rename_i hlen
        cases hstr
        rcases ih hopen hbs with ⟨⟨c, hc, hlong⟩, e, he⟩ | ⟨hfit, u, invs, hu, hinvs, hfns, htext⟩
        · exact .inl ⟨⟨c, List.mem_cons_of_mem _ hc, hlong⟩, e, by rw [run, ht]; exact he⟩
        · refine .inr ⟨List.forall_mem_cons.mpr ⟨hlen, hfit⟩, u, i :: invs, run_cons_ok.mpr ⟨t, ht, hu⟩, ?_, ?_, ?_⟩
          · rw [hinvs, hinv, List.append_assoc, List.singleton_append]
          · exact List.forall_mem_cons.mpr ⟨hfn, hfns⟩
          · rw [List.flatMap_cons, List.flatMap_cons, utf16_append, hi, htext]
      · cases hstr

/-- The strings make up the stream exactly if no chunk is too long for one and each holds
    whole characters. -/
theorem chunks_delivered_iff (hP : P.Sandboxed) (hD : P.Replacing) (hf : f.isFunction)
    (hr : fs.access = true → (readFile P fs).isSome) (hs : SocketOpen a mod f d s) {cs : List Char}
    (hstream : bs.flatten = utf8 cs) (hb : ∀ b ∈ bs, b.length < 2 ^ 31) :
    DeliversStream P a fs f s bs (utf16 cs) ↔ ∀ b ∈ bs, b.length ≤ P.kMaxLength ∧ ∃ ds, b = utf8 ds := by
  rcases ondata_run hP hD hf hr hs hb with ⟨⟨b, hmem, hlong⟩, e, he⟩ | ⟨hfit, u, invs, hu, hinvs, hfns, htext⟩
  · constructor
    · intro h
      obtain ⟨t, invs, ht, -⟩ := h
      rw [he] at ht
      cases ht
    · intro h
      have := (h b hmem).1
      omega
  · have hwhole : (∀ b ∈ bs, b.length ≤ P.kMaxLength ∧ ∃ ds, b = utf8 ds) ↔ bs.flatMap utf8Decode = cs := by
      rw [chunks_decode_iff hstream]
      exact ⟨fun h b hmem => (h b hmem).2, fun h b hmem => ⟨hfit b hmem, h b hmem⟩⟩
    rw [hwhole]
    constructor
    · intro h
      obtain ⟨t, invs', ht, hinvs', -, htext'⟩ := h
      cases hu.symm.trans ht
      cases List.append_cancel_left (hinvs.symm.trans hinvs')
      exact utf16_inj (htext.symm.trans htext')
    · intro h
      exact ⟨u, invs, hu, hinvs, hfns, htext.trans (congrArg utf16 h)⟩

end Stream

/-- V8 with the bound it has on strings. -/
def Platform.bounded : Platform :=
  { Platform.reference with
    newFromUtf8 := fun b => if b.length ≤ 2 ^ 30 - 25 then some (utf16 (utf8Decode b)) else none
    newFromUtf8_isSome := fun b h => by rw [if_pos (show b.length ≤ 2 ^ 30 - 25 from h)]; rfl }

theorem Platform.bounded_replacing : Platform.bounded.Replacing := fun _ => rfl

theorem Platform.bounded_sandboxed : Platform.bounded.Sandboxed where
  run := fun _ _ w => .done w
  call := fun _ _ _ w => .done w

/-- A module with a socket whose `ondata` is a function. -/
def System.receiving : System where
  world := { World.empty with
    sockets := fun _ => some { jsCbdata := some .null, jsOndata := some (.func 1), mod := some 0 }
    nextAddr := 1 }
  configs := fun _ => some ⟨some .sample⟩
  nextIsolate := 1
  locker := false

theorem receiving_open : SocketOpen 0 0 (.func 1) .null .receiving :=
  ⟨Nat.zero_lt_one, ⟨_, rfl, rfl, rfl, rfl⟩, .sample, rfl, rfl⟩

/-- "éA", cut between the two. -/
theorem chunks_delivered_iff_whole : DeliversStream .bounded 0 ⟨some 1, true, some []⟩ (.func 1) .receiving
    [[0xC3, 0xA9], [0x41]] (utf16 ['é', 'A']) := by
  refine (chunks_delivered_iff Platform.bounded_sandboxed Platform.bounded_replacing rfl (fun _ => rfl) receiving_open
    (by decide) (by decide)).mpr fun b hb => ?_
  simp only [List.mem_cons, List.not_mem_nil, or_false] at hb
  rcases hb with rfl | rfl
  · exact ⟨by decide, ['é'], by decide⟩
  · exact ⟨by decide, ['A'], by decide⟩

/-- "é", cut inside. -/
theorem cut_character_lost : ¬∀ (bs : List (List UInt8)) (cs : List Char), bs.flatten = utf8 cs →
    (∀ b ∈ bs, b.length < 2 ^ 31) →
    DeliversStream .bounded 0 ⟨some 1, true, some []⟩ (.func 1) .receiving bs (utf16 cs) := by
  intro h
  obtain ⟨t, invs, ht, hinvs, -, htext⟩ := h [[0xC3], [0xA9]] ['é'] (by decide) (by decide)
  have hsplit : ∀ b ∈ ([[0xC3], [0xA9]] : List (List UInt8)), b.length < 2 ^ 31 := by decide
  have hread : (⟨some 1, true, some []⟩ : ScriptFile).access = true →
      (readFile .bounded ⟨some 1, true, some []⟩).isSome := fun _ => rfl
  rcases ondata_run Platform.bounded_sandboxed Platform.bounded_replacing rfl hread receiving_open hsplit with
    ⟨-, e, he⟩ | ⟨-, u, invs', hu, hinvs', -, htext'⟩
  · rw [he] at ht
    cases ht
  · cases hu.symm.trans ht
    cases List.append_cancel_left (hinvs.symm.trans hinvs')
    rw [htext] at htext'
    exact absurd htext' (by decide)

end MesiboV8
