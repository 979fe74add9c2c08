import ScriptHost.Braced.Statement
import ScriptHost.Braced.Members

/-!
Functions of the library that call other functions. They are written in the notation of the scripts
themselves, with corners in place of its braces.
-/
namespace ScriptHost.Braced.Prelude

open Snippet

def source : List String :=
  ["function* iterated(it) ⟨ for (;;) ⟨ const r = it.next(); if (r.done) return r.value; yield r.value ⟩ ⟩",
   "function arrayMap(f) ⟨",
   "  const xs = itemsOf(this), out = []; let i = -1, n = xs.length;",
   "  while (++i < n) if (i in xs) out[i] = f(xs[i], i, this);",
   "  if (out.length < n) out.length = n; return out",
   "⟩",
   "function arrayFilter(f) ⟨",
   "  const xs = itemsOf(this), out = []; let i = -1, n = xs.length, x;",
   "  while (++i < n) if (i in xs) ⟨ x = xs[i]; if (f(x, i, this)) out.push(x) ⟩",
   "  return out",
   "⟩",
   "function arrayForEach(f) ⟨",
   "  const xs = itemsOf(this); let i = -1; while (++i < xs.length) if (i in xs) f(xs[i], i, this)",
   "⟩",
   "function arrayReduce(f, first) ⟨",
   "  const xs = itemsOf(this); let i = -1, acc = first;",
   "  if (arguments.length < 2) ⟨",
   "    if (xs.length == 0) throw new TypeError('Reduce of empty array with no initial value');",
   "    acc = xs[++i]",
   "  ⟩",
   "  while (++i < xs.length) if (i in xs) acc = f(acc, xs[i], i, this);",
   "  return acc",
   "⟩",
   "function arrayReduceRight(f, first) ⟨",
   "  const xs = itemsOf(this); let i = xs.length, acc = first;",
   "  if (arguments.length < 2) ⟨",
   "    if (i == 0) throw new TypeError('Reduce of empty array with no initial value');",
   "    acc = xs[--i]",
   "  ⟩",
   "  while (--i >= 0) if (i in xs) acc = f(acc, xs[i], i, this);",
   "  return acc",
   "⟩",
   "function arraySome(f) ⟨",
   "  const xs = itemsOf(this); let i = -1;",
   "  while (++i < xs.length) if (i in xs) if (f(xs[i], i, this)) return true;",
   "  return false",
   "⟩",
   "function arrayEvery(f) ⟨",
   "  const xs = itemsOf(this); let i = -1;",
   "  while (++i < xs.length) if (i in xs) if (!f(xs[i], i, this)) return false;",
   "  return true",
   "⟩",
   "function arrayFindIndex(f) ⟨",
   "  const xs = itemsOf(this); let i = -1; while (++i < xs.length) if (f(xs[i], i, this)) return i;",
   "  return -1",
   "⟩",
   "function arrayFind(f) ⟨",
   "  const xs = itemsOf(this); let i = -1, x;",
   "  while (++i < xs.length) ⟨ x = xs[i]; if (f(x, i, this)) return x ⟩",
   "⟩",
   "function arrayFindLastIndex(f) ⟨",
   "  const xs = itemsOf(this); let i = xs.length; while (--i >= 0) if (f(xs[i], i, this)) return i;",
   "  return -1",
   "⟩",
   "function arrayFindLast(f) ⟨",
   "  const xs = itemsOf(this); let i = xs.length, x;",
   "  while (--i >= 0) ⟨ x = xs[i]; if (f(x, i, this)) return x ⟩",
   "⟩",
   "function arrayFlatMap(f) ⟨ return arrayMap.call(this, f).flat() ⟩",
   "function merged(xs, f) ⟨",
   "  const n = xs.length; if (n < 2) return xs;",
   "  const a = merged(xs.slice(0, n >> 1), f), b = merged(xs.slice(n >> 1), f), out = [];",
   "  let i = 0, j = 0;",
   "  while (i < a.length && j < b.length) out.push(f(b[j], a[i]) < 0 ? b[j++] : a[i++]);",
   "  while (i < a.length) out.push(a[i++]);",
   "  while (j < b.length) out.push(b[j++]);",
   "  return out",
   "⟩",
   "function sorted(xs, f) ⟨",
   "  const there = [], others = []; let i = -1;",
   "  while (++i < xs.length) if (i in xs) (xs[i] === undefined ? others : there).push(xs[i]);",
   "  return merged(there, f).concat(others)",
   "⟩",
   "function arraySort(f) ⟨",
   "  const out = sorted(this, f); let i = -1; while (++i < out.length) this[i] = out[i];",
   "  return this",
   "⟩",
   "function arrayToSorted(f) ⟨ return sorted(this, f) ⟩",
   "function arrayFrom(from, f) ⟨",
   "  const xs = listOf(from); if (f === undefined) return xs;",
   "  const out = []; let i = -1; while (++i < xs.length) out.push(f(xs[i], i));",
   "  return out",
   "⟩",
   "function arrayJoin(by) ⟨",
   "  let out = '', i = -1; const sign = by === undefined ? ',' : String(by);",
   "  while (++i < this.length) out += (i ? sign : '') + (this[i] == null ? '' : String(this[i]));",
   "  return out",
   "⟩",
   "function objectGroupBy(from, f) ⟨",
   "  const out = Object.create(null); let i = 0, k;",
   "  for (const x of from) ⟨ k = f(x, i++); if (!(k in out)) out[k] = []; out[k].push(x) ⟩",
   "  return out",
   "⟩",
   "function objectFromEntries(from) ⟨ const out = ⟨⟩; for (const [k, v] of from) out[k] = v; return out ⟩",
   "function mapForEach(f) ⟨ for (const [k, v] of [...this]) f(v, k, this) ⟩",
   "function setForEach(f) ⟨ for (const v of [...this]) f(v, v, this) ⟩",
   "function mapFilled(out, from) ⟨ for (const [k, v] of from) out.set(k, v); return out ⟩",
   "function setFilled(out, from) ⟨ for (const v of from) out.add(v); return out ⟩",
   "function replaced(text, found, f) ⟨",
   "  let out = '', last = 0;",
   "  for (const [start, end, args] of found) ⟨ out += text.slice(last, start) + f(...args); last = end ⟩",
   "  return out + text.slice(last)",
   "⟩",
   "function functionBind(t, ...first) ⟨",
   "  const f = this, g = (...more) => f.call(t, ...first, ...more);",
   "  Object.defineProperty(g, 'name', ⟨ value: 'bound ' + f.name ⟩); return g",
   "⟩",
   "function prepared(holder, key, f) ⟨",
   "  let v = holder[key];",
   "  if (v && typeof v.toJSON === 'function') v = v.toJSON(key);",
   "  if (f) v = f.call(holder, key, v);",
   "  if (!v || typeof v !== 'object') return v;",
   "  if (Array.isArray(v)) return arrayFrom(v, (x, i) => prepared(v, String(i), f));",
   "  const out = ⟨⟩; for (const k of Object.keys(v)) out[k] = prepared(v, k, f);",
   "  return out",
   "⟩",
   "function revived(holder, key, f) ⟨",
   "  const v = holder[key];",
   "  if (v && typeof v === 'object')",
   "    for (const k of Object.keys(v)) ⟨",
   "      const x = revived(v, k, f); if (x === undefined) delete v[k]; else v[k] = x",
   "    ⟩",
   "  return f.call(holder, key, v)",
   "⟩",
   "function promiseMade(p, f, yes, no) ⟨ try ⟨ f(yes, no) ⟩ catch (e) ⟨ no(e) ⟩ return p ⟩",
   "function followed(v, f, yes, no) ⟨ try ⟨ f.call(v, yes, no) ⟩ catch (e) ⟨ no(e) ⟩ ⟩",
   "function reacted(f, v, yes, no) ⟨ let r; try ⟨ r = f(v) ⟩ catch (e) ⟨ no(e); return ⟩ yes(r) ⟩",
   "function promiseCatch(f) ⟨ return this.then(undefined, f) ⟩",
   "function promiseFinally(f) ⟨",
   "  return this.then(v => Promise.resolve(f()).then(() => v),",
   "    e => Promise.resolve(f()).then(() => ⟨ throw e ⟩))",
   "⟩",
   "function promiseAll(from) ⟨",
   "  return new Promise((yes, no) => ⟨",
   "    const out = []; let left = 1, i = 0;",
   "    for (const p of from) ⟨",
   "      const k = i++; left++;",
   "      Promise.resolve(p).then(v => ⟨ out[k] = v; if (--left === 0) yes(out) ⟩, no)",
   "    ⟩",
   "    if (--left === 0) yes(out)",
   "  ⟩)",
   "⟩",
   "function promiseAllSettled(from) ⟨",
   "  return promiseAll(listOf(from).map(p => Promise.resolve(p).then(",
   "    value => (⟨ status: 'fulfilled', value ⟩), reason => (⟨ status: 'rejected', reason ⟩))))",
   "⟩",
   "function promiseRace(from) ⟨",
   "  return new Promise((yes, no) => ⟨ for (const p of from) Promise.resolve(p).then(yes, no) ⟩)",
   "⟩",
   "function promiseAny(from) ⟨",
   "  return new Promise((yes, no) => ⟨",
   "    const errors = []; let left = 1, i = 0;",
   "    const lost = () => no(new AggregateError(errors, 'All promises were rejected'));",
   "    for (const p of from) ⟨",
   "      const k = i++; left++;",
   "      Promise.resolve(p).then(yes, e => ⟨ errors[k] = e; if (--left === 0) lost() ⟩)",
   "    ⟩",
   "    if (--left === 0) lost()",
   "  ⟩)",
   "⟩",
   "function promiseWithResolvers() ⟨",
   "  let resolve, reject; const promise = new Promise((yes, no) => ⟨ resolve = yes; reject = no ⟩);",
   "  return ⟨ promise, resolve, reject ⟩",
   "⟩",
   "function heard(o, n) ⟨",
   "  if (!o._events) Object.defineProperty(o, '_events', ⟨ value: Object.create(null) ⟩);",
   "  return o._events[n] || (o._events[n] = [])",
   "⟩",
   "function eventEmitterOn(n, f) ⟨ heard(this, n).push(f); return this ⟩",
   "function eventEmitterAddListener(n, f) ⟨ heard(this, n).push(f); return this ⟩",
   "function eventEmitterOff(n, f) ⟨",
   "  const fs = heard(this, n); const i = fs.findIndex(g => g === f || g.listener === f);",
   "  if (i >= 0) fs.splice(i, 1); return this",
   "⟩",
   "function eventEmitterRemoveListener(n, f) ⟨ return eventEmitterOff.call(this, n, f) ⟩",
   "function eventEmitterRemoveAllListeners(n) ⟨ heard(this, n).length = 0; return this ⟩",
   "function eventEmitterListenerCount(n) ⟨ return heard(this, n).length ⟩",
   "function eventEmitterOnce(n, f) ⟨",
   "  const o = this; const g = (...args) => ⟨ eventEmitterOff.call(o, n, g); f.apply(o, args) ⟩;",
   "  g.listener = f; heard(this, n).push(g); return this",
   "⟩",
   "function eventEmitterEmit(n, ...args) ⟨",
   "  const fs = heard(this, n).slice(); if (n === 'error' && fs.length === 0) throw args[0];",
   "  for (const f of fs) f.apply(this, args); return fs.length > 0",
   "⟩",
   "function utilPromisify(f) ⟨",
   "  return (...args) => new Promise((yes, no) => f(...args, (e, v) => e ? no(e) : yes(v)))",
   "⟩"]

def withBraces (s : String) : String :=
  s.map fun c => if c = '⟨' then '\x7b' else if c = '⟩' then '\x7d' else c

def functions : List Node :=
  match parse (withBraces ("\n".intercalate source)) with
  | .ok n => n.parts.filter fun f => f.kind = .func
  | .error _ => []

def inner : List (String × String) := [("listOf", "inner.list"), ("itemsOf", "inner.items")]

def function? (name : String) : Option Value :=
  (functions.findIdx? fun f => f.text == name).map fun i => .ref (preludePlace + i)

def nameOf (native : String) : String :=
  match (native.splitOn ".").filter (· ≠ "prototype") with
  | [owner, name] =>
    let small := match owner.toList with
      | c :: cs => String.ofList (c.toLower :: cs)
      | [] => ""
    let capital := match name.toList with
      | c :: cs => String.ofList (c.toUpper :: cs)
      | [] => ""
    small ++ capital
  | _ => ""

end ScriptHost.Braced.Prelude
