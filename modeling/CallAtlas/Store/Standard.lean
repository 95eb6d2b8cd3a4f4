/-! The queries that stores are delivered with. Those of the sample store find the same rows as the
standard ones, but do not say in which order they come if the names that they go by are the same. -/
namespace CallAtlas.Store

namespace Standard

def neighborhood : String :=
  "SELECT f.function_id AS id, f.name, f.file, f.line, f.package, 'callee' AS direction, 1 AS depth "
    ++ "FROM calls c CROSS JOIN functions f ON f.function_id = c.callee_id "
    ++ "WHERE c.caller_id = :function_id "
    ++ "UNION ALL SELECT f.function_id AS id, f.name, f.file, f.line, f.package, 'caller' AS direction, "
    ++ "1 AS depth FROM calls c CROSS JOIN functions f ON f.function_id = c.caller_id "
    ++ "WHERE c.callee_id = :function_id"

def callees : String :=
  "WITH RECURSIVE chain(id, depth) AS (SELECT callee_id, 1 FROM calls "
    ++ "WHERE caller_id = :function_id UNION SELECT c.callee_id, chain.depth + 1 FROM calls c "
    ++ "JOIN chain ON c.caller_id = chain.id WHERE chain.depth < 6) "
    ++ "SELECT f.function_id AS id, f.name, f.file, f.line, f.package, 'callee' AS direction, "
    ++ "MIN(chain.depth) AS depth FROM chain JOIN functions f ON f.function_id = chain.id "
    ++ "GROUP BY f.function_id ORDER BY depth, f.name, f.function_id"

def callers : String :=
  "WITH RECURSIVE chain(id, depth) AS (SELECT caller_id, 1 FROM calls "
    ++ "WHERE callee_id = :function_id UNION SELECT c.caller_id, chain.depth + 1 FROM calls c "
    ++ "JOIN chain ON c.callee_id = chain.id WHERE chain.depth < 6) "
    ++ "SELECT f.function_id AS id, f.name, f.file, f.line, f.package, 'caller' AS direction, "
    ++ "MIN(chain.depth) AS depth FROM chain JOIN functions f ON f.function_id = chain.id "
    ++ "GROUP BY f.function_id ORDER BY depth, f.name, f.function_id"

def paths : String :=
  "WITH RECURSIVE walk(id, path, depth) AS (SELECT :start, :start, 0 "
    ++ "UNION ALL SELECT c.callee_id, walk.path || ' -> ' || c.callee_id, walk.depth + 1 FROM calls c "
    ++ "JOIN walk ON c.caller_id = walk.id WHERE walk.depth < 6 AND instr(walk.path, c.callee_id) = 0) "
    ++ "SELECT path, depth FROM walk WHERE id = :end ORDER BY depth, path"

def symbols : String :=
  "SELECT function_id, name, file, line, package, 'function' AS kind FROM functions "
    ++ "WHERE name LIKE :pattern UNION ALL SELECT 'type:' || name, name, file, line, package, "
    ++ "'type' AS kind FROM types WHERE name LIKE :pattern ORDER BY name, function_id, kind"

def queries : List (String × String × String) :=
  [("function_neighborhood", "Direct callers and callees of a function", neighborhood),
    ("call_chain", "Transitive callees of a function", callees),
    ("callers_of", "Transitive callers of a function", callers),
    ("call_chain_pathfinder", "Call paths between two functions", paths),
    ("symbol_search", "Functions and types whose name matches a LIKE pattern", symbols)]

end Standard

namespace Sample

def neighborhood : String :=
  "\n        SELECT f.function_id AS id, f.name, f.file, f.line, f.package,\n"
    ++ "               'callee' AS direction, 1 AS depth\n"
    ++ "        FROM calls c JOIN functions f ON f.function_id = c.callee_id\n"
    ++ "        WHERE c.caller_id = :function_id\n"
    ++ "        UNION ALL\n"
    ++ "        SELECT f.function_id AS id, f.name, f.file, f.line, f.package,\n"
    ++ "               'caller' AS direction, 1 AS depth\n"
    ++ "        FROM calls c JOIN functions f ON f.function_id = c.caller_id\n"
    ++ "        WHERE c.callee_id = :function_id\n"
    ++ "        "

def callees : String :=
  "\n        WITH RECURSIVE chain(id, depth) AS (\n"
    ++ "            SELECT callee_id, 1 FROM calls WHERE caller_id = :function_id\n"
    ++ "            UNION\n"
    ++ "            SELECT c.callee_id, chain.depth + 1\n"
    ++ "            FROM calls c JOIN chain ON c.caller_id = chain.id\n"
    ++ "            WHERE chain.depth < 6\n"
    ++ "        )\n"
    ++ "        SELECT f.function_id AS id, f.name, f.file, f.line, f.package,\n"
    ++ "               'callee' AS direction, MIN(chain.depth) AS depth\n"
    ++ "        FROM chain JOIN functions f ON f.function_id = chain.id\n"
    ++ "        GROUP BY f.function_id\n"
    ++ "        ORDER BY depth, f.name\n"
    ++ "        "

def callers : String :=
  "\n        WITH RECURSIVE chain(id, depth) AS (\n"
    ++ "            SELECT caller_id, 1 FROM calls WHERE callee_id = :function_id\n"
    ++ "            UNION\n"
    ++ "            SELECT c.caller_id, chain.depth + 1\n"
    ++ "            FROM calls c JOIN chain ON c.callee_id = chain.id\n"
    ++ "            WHERE chain.depth < 6\n"
    ++ "        )\n"
    ++ "        SELECT f.function_id AS id, f.name, f.file, f.line, f.package,\n"
    ++ "               'caller' AS direction, MIN(chain.depth) AS depth\n"
    ++ "        FROM chain JOIN functions f ON f.function_id = chain.id\n"
    ++ "        GROUP BY f.function_id\n"
    ++ "        ORDER BY depth, f.name\n"
    ++ "        "

def paths : String :=
  "\n        WITH RECURSIVE walk(id, path, depth) AS (\n"
    ++ "            SELECT :start, :start, 0\n"
    ++ "            UNION ALL\n"
    ++ "            SELECT c.callee_id, walk.path || ' -> ' || c.callee_id, walk.depth + 1\n"
    ++ "            FROM calls c JOIN walk ON c.caller_id = walk.id\n"
    ++ "            WHERE walk.depth < 6 AND instr(walk.path, c.callee_id) = 0\n"
    ++ "        )\n"
    ++ "        SELECT path, depth FROM walk WHERE id = :end ORDER BY depth, path\n"
    ++ "        "

def symbols : String :=
  "\n        SELECT function_id, name, file, line, package, 'function' AS kind\n"
    ++ "        FROM functions WHERE name LIKE :pattern\n"
    ++ "        UNION ALL\n"
    ++ "        SELECT 'type:' || name, name, file, line, package, 'type' AS kind\n"
    ++ "        FROM types WHERE name LIKE :pattern\n"
    ++ "        ORDER BY name\n"
    ++ "        "

end Sample

end CallAtlas.Store
