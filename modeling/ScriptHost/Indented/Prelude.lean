import ScriptHost.Indented.Statement

/-!
Functions of the library that call other functions, or that hand out values one after the other. They
are written in the notation of the scripts themselves.
-/
namespace ScriptHost.Indented.Prelude

open Snippet

def source : List String :=
  ["def mapped(f, xs):",
   "    return [f(x) for x in xs]",
   "def iterated(it):",
   "    while True:",
   "        try:",
   "            v = it.__next__()",
   "        except StopIteration:",
   "            return",
   "        yield v",
   "def map(f, *its):",
   "    if len(its) == 1:",
   "        for x in its[0]:",
   "            yield f(x)",
   "    else:",
   "        for xs in zip(*its):",
   "            yield f(*xs)",
   "def filter(f, it):",
   "    for x in it:",
   "        if x if f is None else f(x):",
   "            yield x",
   "def enumerated(it, start=0):",
   "    for x in it:",
   "        yield (start, x)",
   "        start += 1",
   "def zipped(*its):",
   "    its = [iter(i) for i in its]",
   "    while its:",
   "        row = []",
   "        for i in its:",
   "            try:",
   "                row.append(next(i))",
   "            except StopIteration:",
   "                return",
   "        yield tuple(row)",
   "def anyOf(it):",
   "    for x in it:",
   "        if x:",
   "            return True",
   "    return False",
   "def allOf(it):",
   "    for x in it:",
   "        if not x:",
   "            return False",
   "    return True",
   "def untilValue(f, last):",
   "    while True:",
   "        v = f()",
   "        if v == last:",
   "            return",
   "        yield v",
   "def reduce(f, it, *first):",
   "    it = iter(it)",
   "    if first:",
   "        acc = first[0]",
   "    else:",
   "        try:",
   "            acc = next(it)",
   "        except StopIteration:",
   "            raise TypeError('reduce() of empty iterable with no initial value')",
   "    for x in it:",
   "        acc = f(acc, x)",
   "    return acc",
   "def partial(f, *args, **named):",
   "    def call(*more, **others):",
   "        return f(*args, *more, **\x7b**named, **others\x7d)",
   "    return call",
   "def cache(f):",
   "    memo = \x7b\x7d",
   "    def call(*args):",
   "        if args not in memo:",
   "            memo[args] = f(*args)",
   "        return memo[args]",
   "    call.__name__ = f.__name__",
   "    return call",
   "def lru_cache(maxsize=128, typed=False):",
   "    return cache(maxsize) if callable(maxsize) else cache",
   "def wraps(f):",
   "    def named(g):",
   "        g.__name__ = f.__name__",
   "        return g",
   "    return named",
   "def chain(*its):",
   "    for it in its:",
   "        yield from it",
   "def chained(its):",
   "    for it in its:",
   "        yield from it",
   "def count(start=0, step=1):",
   "    while True:",
   "        yield start",
   "        start += step",
   "def islice(it, *ends):",
   "    start, stop, step = (0, ends[0], 1) if len(ends) == 1 else (list(ends) + [1])[:3]",
   "    start = start or 0",
   "    step = step or 1",
   "    if stop == 0:",
   "        return",
   "    i = 0",
   "    for x in it:",
   "        if i >= start and (i - start) % step == 0:",
   "            yield x",
   "        i += 1",
   "        if stop is not None and i >= stop:",
   "            return",
   "def product(*its, repeat=1):",
   "    rows = [()]",
   "    for it in [tuple(i) for i in its] * repeat:",
   "        rows = [row + (x,) for row in rows for x in it]",
   "    yield from rows",
   "def permutations(it, r=None):",
   "    xs = tuple(it)",
   "    r = len(xs) if r is None else r",
   "    def pick(left, n):",
   "        if n == 0:",
   "            yield ()",
   "        else:",
   "            for i in range(len(left)):",
   "                for rest in pick(left[:i] + left[i + 1:], n - 1):",
   "                    yield (xs[left[i]],) + rest",
   "    yield from pick(tuple(range(len(xs))), r)",
   "def combinations(it, r):",
   "    xs = tuple(it)",
   "    def pick(start, n):",
   "        if n == 0:",
   "            yield ()",
   "        else:",
   "            for i in range(start, len(xs) - n + 1):",
   "                for rest in pick(i + 1, n - 1):",
   "                    yield (xs[i],) + rest",
   "    yield from pick(0, r)",
   "def accumulate(it, func=None, initial=None):",
   "    it = iter(it)",
   "    acc = initial",
   "    if initial is None:",
   "        try:",
   "            acc = next(it)",
   "        except StopIteration:",
   "            return",
   "    yield acc",
   "    for x in it:",
   "        acc = acc + x if func is None else func(acc, x)",
   "        yield acc",
   "def groupby(it, key=None):",
   "    last, group, begun = None, [], False",
   "    for x in it:",
   "        k = x if key is None else key(x)",
   "        if begun and k == last:",
   "            group.append(x)",
   "        else:",
   "            if begun:",
   "                yield last, iter(group)",
   "            last, group, begun = k, [x], True",
   "    if begun:",
   "        yield last, iter(group)",
   "def repeat(x, times=None):",
   "    while times is None or times > 0:",
   "        yield x",
   "        if times is not None:",
   "            times -= 1",
   "def cycle(it):",
   "    xs = list(it)",
   "    while xs:",
   "        yield from xs",
   "def zip_longest(*its, fillvalue=None):",
   "    rows = [list(i) for i in its]",
   "    for i in range(max([len(r) for r in rows] + [0])):",
   "        yield tuple([r[i] if i < len(r) else fillvalue for r in rows])",
   "def takewhile(f, it):",
   "    for x in it:",
   "        if not f(x):",
   "            return",
   "        yield x",
   "def dropwhile(f, it):",
   "    dropping = True",
   "    for x in it:",
   "        dropping = dropping and f(x)",
   "        if not dropping:",
   "            yield x",
   "def starmap(f, it):",
   "    for xs in it:",
   "        yield f(*xs)",
   "def pairwise(it):",
   "    begun, last = False, None",
   "    for x in it:",
   "        if begun:",
   "            yield (last, x)",
   "        begun, last = True, x",
   "def itemgetter(*keys):",
   "    return lambda o: o[keys[0]] if len(keys) == 1 else tuple([o[k] for k in keys])",
   "def attrgetter(name):",
   "    return lambda o: getattr(o, name)",
   "def namedtuple(typename, field_names):",
   "    names = field_names.replace(',', ' ').split() if isinstance(field_names, str) else list(field_names)",
   "    class Made:",
   "        _fields = tuple(names)",
   "        def __init__(self, *args, **named):",
   "            for n, v in list(zip(names, args)) + list(named.items()):",
   "                setattr(self, n, v)",
   "        def __iter__(self):",
   "            return iter([getattr(self, n) for n in names])",
   "        def __getitem__(self, i):",
   "            return [getattr(self, n) for n in names][i]",
   "        def __len__(self):",
   "            return len(names)",
   "        def __eq__(self, other):",
   "            return list(self) == list(other)",
   "        def __repr__(self):",
   "            return typename + '(' + ', '.join([n + '=' + repr(getattr(self, n)) for n in names]) + ')'",
   "        def _asdict(self):",
   "            return \x7bn: getattr(self, n) for n in names\x7d",
   "    Made.__name__ = typename",
   "    return Made",
   "async def gather(*cs):",
   "    return [await c for c in cs]"]

def functions : List Node :=
  match parse ("\n".intercalate source ++ "\n") with
  | .ok n => n.parts.filter fun f => f.kind = .func
  | .error _ => []

def index? (name : String) : Option Nat := functions.findIdx? fun f => f.text == name

def aliases : List (String × String) :=
  [("enumerate", "enumerated"), ("zip", "zipped"), ("any", "anyOf"), ("all", "allOf")]

end ScriptHost.Indented.Prelude
