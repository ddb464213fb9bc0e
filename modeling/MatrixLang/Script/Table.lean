import MatrixLang.Grammar.Table

/-!
# The parse table of version 5

The LALR(1) table of the version 5 grammar (`Script.grammar`), with its conflicts settled by the
grammar's precedence levels, as the parser generator builds it. States are numbered in the order
the generator finds them, from the start state `0`; a reduction names its production by the
numbering of `Grammar.numbered`. Each state has one row of actions, by terminal, and one row of
moves, by nonterminal.
-/
namespace MatrixLang.Script

/-- The parse table of version 5. -/
def table : Grammar.Table where
  actions := #[
    /- 0 -/ [(";", .shift 4), ("BREAK", .shift 12), ("CONTINUE", .shift 11), ("FOR", .shift 15), ("ID", .shift 16), ("IF", .shift 18), ("PRINT", .shift 13), ("RETURN", .shift 3), ("WHILE", .shift 17), ("\x7b", .shift 10)],
    /- 1 -/ [("$end", .accept), (";", .shift 4), ("BREAK", .shift 12), ("CONTINUE", .shift 11), ("FOR", .shift 15), ("ID", .shift 16), ("IF", .shift 18), ("PRINT", .shift 13), ("RETURN", .shift 3), ("WHILE", .shift 17), ("\x7b", .shift 10)],
    /- 2 -/ [("$end", .reduce 2), (";", .reduce 2), ("BREAK", .reduce 2), ("CONTINUE", .reduce 2), ("FOR", .reduce 2), ("ID", .reduce 2), ("IF", .reduce 2), ("PRINT", .reduce 2), ("RETURN", .reduce 2), ("WHILE", .reduce 2), ("\x7b", .reduce 2), ("\x7d", .reduce 2)],
    /- 3 -/ [("(", .shift 24), ("-", .shift 23), ("EYE", .shift 32), ("FLOATNUM", .shift 37), ("ID", .shift 31), ("INTNUM", .shift 33), ("ONES", .shift 34), ("STRING", .shift 36), ("ZEROS", .shift 35), ("[", .shift 25)],
    /- 4 -/ [("$end", .reduce 10), (";", .reduce 10), ("BREAK", .reduce 10), ("CONTINUE", .reduce 10), ("ELSE", .reduce 10), ("FOR", .reduce 10), ("ID", .reduce 10), ("IF", .reduce 10), ("PRINT", .reduce 10), ("RETURN", .reduce 10), ("WHILE", .reduce 10), ("\x7b", .reduce 10), ("\x7d", .reduce 10)],
    /- 5 -/ [("$end", .reduce 4), (";", .reduce 4), ("BREAK", .reduce 4), ("CONTINUE", .reduce 4), ("ELSE", .reduce 4), ("FOR", .reduce 4), ("ID", .reduce 4), ("IF", .reduce 4), ("PRINT", .reduce 4), ("RETURN", .reduce 4), ("WHILE", .reduce 4), ("\x7b", .reduce 4), ("\x7d", .reduce 4)],
    /- 6 -/ [("$end", .reduce 5), (";", .reduce 5), ("BREAK", .reduce 5), ("CONTINUE", .reduce 5), ("ELSE", .reduce 5), ("FOR", .reduce 5), ("ID", .reduce 5), ("IF", .reduce 5), ("PRINT", .reduce 5), ("RETURN", .reduce 5), ("WHILE", .reduce 5), ("\x7b", .reduce 5), ("\x7d", .reduce 5)],
    /- 7 -/ [("$end", .reduce 6), (";", .reduce 6), ("BREAK", .reduce 6), ("CONTINUE", .reduce 6), ("ELSE", .reduce 6), ("FOR", .reduce 6), ("ID", .reduce 6), ("IF", .reduce 6), ("PRINT", .reduce 6), ("RETURN", .reduce 6), ("WHILE", .reduce 6), ("\x7b", .reduce 6), ("\x7d", .reduce 6)],
    /- 8 -/ [("$end", .reduce 7), (";", .reduce 7), ("BREAK", .reduce 7), ("CONTINUE", .reduce 7), ("ELSE", .reduce 7), ("FOR", .reduce 7), ("ID", .reduce 7), ("IF", .reduce 7), ("PRINT", .reduce 7), ("RETURN", .reduce 7), ("WHILE", .reduce 7), ("\x7b", .reduce 7), ("\x7d", .reduce 7)],
    /- 9 -/ [("$end", .reduce 8), (";", .reduce 8), ("BREAK", .reduce 8), ("CONTINUE", .reduce 8), ("ELSE", .reduce 8), ("FOR", .reduce 8), ("ID", .reduce 8), ("IF", .reduce 8), ("PRINT", .reduce 8), ("RETURN", .reduce 8), ("WHILE", .reduce 8), ("\x7b", .reduce 8), ("\x7d", .reduce 8)],
    /- 10 -/ [(";", .shift 4), ("BREAK", .shift 12), ("CONTINUE", .shift 11), ("FOR", .shift 15), ("ID", .shift 16), ("IF", .shift 18), ("PRINT", .shift 13), ("RETURN", .shift 3), ("WHILE", .shift 17), ("\x7b", .shift 10)],
    /- 11 -/ [(";", .shift 39)],
    /- 12 -/ [(";", .shift 40)],
    /- 13 -/ [("(", .shift 24), ("-", .shift 23), ("EYE", .shift 32), ("FLOATNUM", .shift 37), ("ID", .shift 31), ("INTNUM", .shift 33), ("ONES", .shift 34), ("STRING", .shift 36), ("ZEROS", .shift 35), ("[", .shift 25)],
    /- 14 -/ [("=", .shift 48), ("ADDASSIGN", .shift 47), ("DIVASSIGN", .shift 44), ("MULASSIGN", .shift 45), ("SUBASSIGN", .shift 46)],
    /- 15 -/ [("ID", .shift 49)],
    /- 16 -/ [("=", .reduce 64), ("ADDASSIGN", .reduce 64), ("DIVASSIGN", .reduce 64), ("MULASSIGN", .reduce 64), ("SUBASSIGN", .reduce 64), ("[", .shift 50)],
    /- 17 -/ [("(", .shift 51)],
    /- 18 -/ [("(", .shift 52)],
    /- 19 -/ [("=", .reduce 62), ("ADDASSIGN", .reduce 62), ("DIVASSIGN", .reduce 62), ("MULASSIGN", .reduce 62), ("SUBASSIGN", .reduce 62)],
    /- 20 -/ [("=", .reduce 63), ("ADDASSIGN", .reduce 63), ("DIVASSIGN", .reduce 63), ("MULASSIGN", .reduce 63), ("SUBASSIGN", .reduce 63)],
    /- 21 -/ [("$end", .reduce 1), (";", .reduce 1), ("BREAK", .reduce 1), ("CONTINUE", .reduce 1), ("FOR", .reduce 1), ("ID", .reduce 1), ("IF", .reduce 1), ("PRINT", .reduce 1), ("RETURN", .reduce 1), ("WHILE", .reduce 1), ("\x7b", .reduce 1), ("\x7d", .reduce 1)],
    /- 22 -/ [("'", .shift 62), ("*", .shift 59), ("+", .shift 61), ("-", .shift 60), ("/", .shift 58), (";", .shift 53), ("<", .shift 68), (">", .shift 67), ("DOTADD", .shift 57), ("DOTDIV", .shift 54), ("DOTMUL", .shift 55), ("DOTSUB", .shift 56), ("EQ", .shift 64), ("GE", .shift 65), ("LE", .shift 66), ("NE", .shift 63)],
    /- 23 -/ [("(", .shift 24), ("-", .shift 23), ("EYE", .shift 32), ("FLOATNUM", .shift 37), ("ID", .shift 31), ("INTNUM", .shift 33), ("ONES", .shift 34), ("STRING", .shift 36), ("ZEROS", .shift 35), ("[", .shift 25)],
    /- 24 -/ [("(", .shift 24), ("-", .shift 23), ("EYE", .shift 32), ("FLOATNUM", .shift 37), ("ID", .shift 31), ("INTNUM", .shift 33), ("ONES", .shift 34), ("STRING", .shift 36), ("ZEROS", .shift 35), ("[", .shift 25)],
    /- 25 -/ [("INTNUM", .shift 74), ("[", .shift 71)],
    /- 26 -/ [("'", .reduce 46), (")", .reduce 46), ("*", .reduce 46), ("+", .reduce 46), (",", .reduce 46), ("-", .reduce 46), ("/", .reduce 46), (";", .reduce 46), ("<", .reduce 46), ("=", .reduce 63), (">", .reduce 46), ("ADDASSIGN", .reduce 63), ("BREAK", .reduce 46), ("CONTINUE", .reduce 46), ("DIVASSIGN", .reduce 63), ("DOTADD", .reduce 46), ("DOTDIV", .reduce 46), ("DOTMUL", .reduce 46), ("DOTSUB", .reduce 46), ("EQ", .reduce 46), ("FOR", .reduce 46), ("GE", .reduce 46), ("ID", .reduce 46), ("IF", .reduce 46), ("LE", .reduce 46), ("MULASSIGN", .reduce 63), ("NE", .reduce 46), ("PRINT", .reduce 46), ("RETURN", .reduce 46), ("SUBASSIGN", .reduce 63), ("WHILE", .reduce 46), ("\x7b", .reduce 46)],
    /- 27 -/ [("'", .reduce 47), (")", .reduce 47), ("*", .reduce 47), ("+", .reduce 47), (",", .reduce 47), ("-", .reduce 47), ("/", .reduce 47), (";", .reduce 47), ("<", .reduce 47), (">", .reduce 47), ("BREAK", .reduce 47), ("CONTINUE", .reduce 47), ("DOTADD", .reduce 47), ("DOTDIV", .reduce 47), ("DOTMUL", .reduce 47), ("DOTSUB", .reduce 47), ("EQ", .reduce 47), ("FOR", .reduce 47), ("GE", .reduce 47), ("ID", .reduce 47), ("IF", .reduce 47), ("LE", .reduce 47), ("NE", .reduce 47), ("PRINT", .reduce 47), ("RETURN", .reduce 47), ("WHILE", .reduce 47), ("\x7b", .reduce 47)],
    /- 28 -/ [("'", .reduce 48), (")", .reduce 48), ("*", .reduce 48), ("+", .reduce 48), (",", .reduce 48), ("-", .reduce 48), ("/", .reduce 48), (";", .reduce 48), ("<", .reduce 48), (">", .reduce 48), ("BREAK", .reduce 48), ("CONTINUE", .reduce 48), ("DOTADD", .reduce 48), ("DOTDIV", .reduce 48), ("DOTMUL", .reduce 48), ("DOTSUB", .reduce 48), ("EQ", .reduce 48), ("FOR", .reduce 48), ("GE", .reduce 48), ("ID", .reduce 48), ("IF", .reduce 48), ("LE", .reduce 48), ("NE", .reduce 48), ("PRINT", .reduce 48), ("RETURN", .reduce 48), ("WHILE", .reduce 48), ("\x7b", .reduce 48)],
    /- 29 -/ [("'", .reduce 49), (")", .reduce 49), ("*", .reduce 49), ("+", .reduce 49), (",", .reduce 49), ("-", .reduce 49), ("/", .reduce 49), (";", .reduce 49), ("<", .reduce 49), (">", .reduce 49), ("BREAK", .reduce 49), ("CONTINUE", .reduce 49), ("DOTADD", .reduce 49), ("DOTDIV", .reduce 49), ("DOTMUL", .reduce 49), ("DOTSUB", .reduce 49), ("EQ", .reduce 49), ("FOR", .reduce 49), ("GE", .reduce 49), ("ID", .reduce 49), ("IF", .reduce 49), ("LE", .reduce 49), ("NE", .reduce 49), ("PRINT", .reduce 49), ("RETURN", .reduce 49), ("WHILE", .reduce 49), ("\x7b", .reduce 49)],
    /- 30 -/ [("'", .reduce 50), (")", .reduce 50), ("*", .reduce 50), ("+", .reduce 50), (",", .reduce 50), ("-", .reduce 50), ("/", .reduce 50), (";", .reduce 50), ("<", .reduce 50), (">", .reduce 50), ("BREAK", .reduce 50), ("CONTINUE", .reduce 50), ("DOTADD", .reduce 50), ("DOTDIV", .reduce 50), ("DOTMUL", .reduce 50), ("DOTSUB", .reduce 50), ("EQ", .reduce 50), ("FOR", .reduce 50), ("GE", .reduce 50), ("ID", .reduce 50), ("IF", .reduce 50), ("LE", .reduce 50), ("NE", .reduce 50), ("PRINT", .reduce 50), ("RETURN", .reduce 50), ("WHILE", .reduce 50), ("\x7b", .reduce 50)],
    /- 31 -/ [("'", .reduce 78), (")", .reduce 78), ("*", .reduce 78), ("+", .reduce 78), (",", .reduce 78), ("-", .reduce 78), ("/", .reduce 78), (";", .reduce 78), ("<", .reduce 78), ("=", .reduce 64), (">", .reduce 78), ("ADDASSIGN", .reduce 64), ("BREAK", .reduce 78), ("CONTINUE", .reduce 78), ("DIVASSIGN", .reduce 64), ("DOTADD", .reduce 78), ("DOTDIV", .reduce 78), ("DOTMUL", .reduce 78), ("DOTSUB", .reduce 78), ("EQ", .reduce 78), ("FOR", .reduce 78), ("GE", .reduce 78), ("ID", .reduce 78), ("IF", .reduce 78), ("LE", .reduce 78), ("MULASSIGN", .reduce 64), ("NE", .reduce 78), ("PRINT", .reduce 78), ("RETURN", .reduce 78), ("SUBASSIGN", .reduce 64), ("WHILE", .reduce 78), ("[", .shift 75), ("\x7b", .reduce 78)],
    /- 32 -/ [("(", .shift 76)],
    /- 33 -/ [("'", .reduce 80), (")", .reduce 80), ("*", .reduce 80), ("+", .reduce 80), (",", .reduce 80), ("-", .reduce 80), ("/", .reduce 80), (";", .reduce 80), ("<", .reduce 80), (">", .reduce 80), ("BREAK", .reduce 80), ("CONTINUE", .reduce 80), ("DOTADD", .reduce 80), ("DOTDIV", .reduce 80), ("DOTMUL", .reduce 80), ("DOTSUB", .reduce 80), ("EQ", .reduce 80), ("FOR", .reduce 80), ("GE", .reduce 80), ("ID", .reduce 80), ("IF", .reduce 80), ("LE", .reduce 80), ("NE", .reduce 80), ("PRINT", .reduce 80), ("RETURN", .reduce 80), ("WHILE", .reduce 80), ("\x7b", .reduce 80)],
    /- 34 -/ [("(", .shift 77)],
    /- 35 -/ [("(", .shift 78)],
    /- 36 -/ [("'", .reduce 77), (")", .reduce 77), ("*", .reduce 77), ("+", .reduce 77), (",", .reduce 77), ("-", .reduce 77), ("/", .reduce 77), (";", .reduce 77), ("<", .reduce 77), (">", .reduce 77), ("BREAK", .reduce 77), ("CONTINUE", .reduce 77), ("DOTADD", .reduce 77), ("DOTDIV", .reduce 77), ("DOTMUL", .reduce 77), ("DOTSUB", .reduce 77), ("EQ", .reduce 77), ("FOR", .reduce 77), ("GE", .reduce 77), ("ID", .reduce 77), ("IF", .reduce 77), ("LE", .reduce 77), ("NE", .reduce 77), ("PRINT", .reduce 77), ("RETURN", .reduce 77), ("WHILE", .reduce 77), ("\x7b", .reduce 77)],
    /- 37 -/ [("'", .reduce 79), (")", .reduce 79), ("*", .reduce 79), ("+", .reduce 79), (",", .reduce 79), ("-", .reduce 79), ("/", .reduce 79), (";", .reduce 79), ("<", .reduce 79), (">", .reduce 79), ("BREAK", .reduce 79), ("CONTINUE", .reduce 79), ("DOTADD", .reduce 79), ("DOTDIV", .reduce 79), ("DOTMUL", .reduce 79), ("DOTSUB", .reduce 79), ("EQ", .reduce 79), ("FOR", .reduce 79), ("GE", .reduce 79), ("ID", .reduce 79), ("IF", .reduce 79), ("LE", .reduce 79), ("NE", .reduce 79), ("PRINT", .reduce 79), ("RETURN", .reduce 79), ("WHILE", .reduce 79), ("\x7b", .reduce 79)],
    /- 38 -/ [(";", .shift 4), ("BREAK", .shift 12), ("CONTINUE", .shift 11), ("FOR", .shift 15), ("ID", .shift 16), ("IF", .shift 18), ("PRINT", .shift 13), ("RETURN", .shift 3), ("WHILE", .shift 17), ("\x7b", .shift 10), ("\x7d", .shift 79)],
    /- 39 -/ [("$end", .reduce 11), (";", .reduce 11), ("BREAK", .reduce 11), ("CONTINUE", .reduce 11), ("ELSE", .reduce 11), ("FOR", .reduce 11), ("ID", .reduce 11), ("IF", .reduce 11), ("PRINT", .reduce 11), ("RETURN", .reduce 11), ("WHILE", .reduce 11), ("\x7b", .reduce 11), ("\x7d", .reduce 11)],
    /- 40 -/ [("$end", .reduce 12), (";", .reduce 12), ("BREAK", .reduce 12), ("CONTINUE", .reduce 12), ("ELSE", .reduce 12), ("FOR", .reduce 12), ("ID", .reduce 12), ("IF", .reduce 12), ("PRINT", .reduce 12), ("RETURN", .reduce 12), ("WHILE", .reduce 12), ("\x7b", .reduce 12), ("\x7d", .reduce 12)],
    /- 41 -/ [(",", .shift 81), (";", .shift 80)],
    /- 42 -/ [(",", .reduce 18), (";", .reduce 18)],
    /- 43 -/ [("'", .shift 62), ("*", .shift 83), ("+", .shift 85), (",", .reduce 24), ("-", .shift 84), ("/", .shift 82), (";", .reduce 24), ("<", .shift 68), (">", .shift 67), ("DOTADD", .shift 57), ("DOTDIV", .shift 54), ("DOTMUL", .shift 55), ("DOTSUB", .shift 56), ("EQ", .shift 64), ("GE", .shift 65), ("LE", .shift 66), ("NE", .shift 63)],
    /- 44 -/ [("(", .shift 24), ("-", .shift 23), ("EYE", .shift 32), ("FLOATNUM", .shift 37), ("ID", .shift 31), ("INTNUM", .shift 33), ("ONES", .shift 34), ("STRING", .shift 36), ("ZEROS", .shift 35), ("[", .shift 25)],
    /- 45 -/ [("(", .shift 24), ("-", .shift 23), ("EYE", .shift 32), ("FLOATNUM", .shift 37), ("ID", .shift 31), ("INTNUM", .shift 33), ("ONES", .shift 34), ("STRING", .shift 36), ("ZEROS", .shift 35), ("[", .shift 25)],
    /- 46 -/ [("(", .shift 24), ("-", .shift 23), ("EYE", .shift 32), ("FLOATNUM", .shift 37), ("ID", .shift 31), ("INTNUM", .shift 33), ("ONES", .shift 34), ("STRING", .shift 36), ("ZEROS", .shift 35), ("[", .shift 25)],
    /- 47 -/ [("(", .shift 24), ("-", .shift 23), ("EYE", .shift 32), ("FLOATNUM", .shift 37), ("ID", .shift 31), ("INTNUM", .shift 33), ("ONES", .shift 34), ("STRING", .shift 36), ("ZEROS", .shift 35), ("[", .shift 25)],
    /- 48 -/ [("(", .shift 24), ("-", .shift 23), ("EYE", .shift 32), ("FLOATNUM", .shift 37), ("ID", .shift 31), ("INTNUM", .shift 33), ("ONES", .shift 34), ("STRING", .shift 36), ("ZEROS", .shift 35), ("[", .shift 25)],
    /- 49 -/ [("=", .shift 91)],
    /- 50 -/ [(":", .shift 94), ("ID", .shift 92), ("INTNUM", .shift 95)],
    /- 51 -/ [("(", .shift 24), ("-", .shift 23), ("EYE", .shift 32), ("FLOATNUM", .shift 37), ("ID", .shift 31), ("INTNUM", .shift 33), ("ONES", .shift 34), ("STRING", .shift 36), ("ZEROS", .shift 35), ("[", .shift 25)],
    /- 52 -/ [("(", .shift 24), ("-", .shift 23), ("EYE", .shift 32), ("FLOATNUM", .shift 37), ("ID", .shift 31), ("INTNUM", .shift 33), ("ONES", .shift 34), ("STRING", .shift 36), ("ZEROS", .shift 35), ("[", .shift 25)],
    /- 53 -/ [("$end", .reduce 3), (";", .reduce 3), ("BREAK", .reduce 3), ("CONTINUE", .reduce 3), ("ELSE", .reduce 3), ("FOR", .reduce 3), ("ID", .reduce 3), ("IF", .reduce 3), ("PRINT", .reduce 3), ("RETURN", .reduce 3), ("WHILE", .reduce 3), ("\x7b", .reduce 3), ("\x7d", .reduce 3)],
    /- 54 -/ [("(", .shift 24), ("-", .shift 23), ("EYE", .shift 32), ("FLOATNUM", .shift 37), ("ID", .shift 31), ("INTNUM", .shift 33), ("ONES", .shift 34), ("STRING", .shift 36), ("ZEROS", .shift 35), ("[", .shift 25)],
    /- 55 -/ [("(", .shift 24), ("-", .shift 23), ("EYE", .shift 32), ("FLOATNUM", .shift 37), ("ID", .shift 31), ("INTNUM", .shift 33), ("ONES", .shift 34), ("STRING", .shift 36), ("ZEROS", .shift 35), ("[", .shift 25)],
    /- 56 -/ [("(", .shift 24), ("-", .shift 23), ("EYE", .shift 32), ("FLOATNUM", .shift 37), ("ID", .shift 31), ("INTNUM", .shift 33), ("ONES", .shift 34), ("STRING", .shift 36), ("ZEROS", .shift 35), ("[", .shift 25)],
    /- 57 -/ [("(", .shift 24), ("-", .shift 23), ("EYE", .shift 32), ("FLOATNUM", .shift 37), ("ID", .shift 31), ("INTNUM", .shift 33), ("ONES", .shift 34), ("STRING", .shift 36), ("ZEROS", .shift 35), ("[", .shift 25)],
    /- 58 -/ [("(", .shift 24), ("-", .shift 23), ("EYE", .shift 32), ("FLOATNUM", .shift 37), ("ID", .shift 31), ("INTNUM", .shift 33), ("ONES", .shift 34), ("STRING", .shift 36), ("ZEROS", .shift 35), ("[", .shift 25)],
    /- 59 -/ [("(", .shift 24), ("-", .shift 23), ("EYE", .shift 32), ("FLOATNUM", .shift 37), ("ID", .shift 31), ("INTNUM", .shift 33), ("ONES", .shift 34), ("STRING", .shift 36), ("ZEROS", .shift 35), ("[", .shift 25)],
    /- 60 -/ [("(", .shift 24), ("-", .shift 23), ("EYE", .shift 32), ("FLOATNUM", .shift 37), ("ID", .shift 31), ("INTNUM", .shift 33), ("ONES", .shift 34), ("STRING", .shift 36), ("ZEROS", .shift 35), ("[", .shift 25)],
    /- 61 -/ [("(", .shift 24), ("-", .shift 23), ("EYE", .shift 32), ("FLOATNUM", .shift 37), ("ID", .shift 31), ("INTNUM", .shift 33), ("ONES", .shift 34), ("STRING", .shift 36), ("ZEROS", .shift 35), ("[", .shift 25)],
    /- 62 -/ [("'", .reduce 42), (")", .reduce 42), ("*", .reduce 42), ("+", .reduce 42), (",", .reduce 42), ("-", .reduce 42), ("/", .reduce 42), (";", .reduce 42), ("<", .reduce 42), (">", .reduce 42), ("BREAK", .reduce 42), ("CONTINUE", .reduce 42), ("DOTADD", .reduce 42), ("DOTDIV", .reduce 42), ("DOTMUL", .reduce 42), ("DOTSUB", .reduce 42), ("EQ", .reduce 42), ("FOR", .reduce 42), ("GE", .reduce 42), ("ID", .reduce 42), ("IF", .reduce 42), ("LE", .reduce 42), ("NE", .reduce 42), ("PRINT", .reduce 42), ("RETURN", .reduce 42), ("WHILE", .reduce 42), ("\x7b", .reduce 42)],
    /- 63 -/ [("(", .shift 24), ("-", .shift 23), ("EYE", .shift 32), ("FLOATNUM", .shift 37), ("ID", .shift 31), ("INTNUM", .shift 33), ("ONES", .shift 34), ("STRING", .shift 36), ("ZEROS", .shift 35), ("[", .shift 25)],
    /- 64 -/ [("(", .shift 24), ("-", .shift 23), ("EYE", .shift 32), ("FLOATNUM", .shift 37), ("ID", .shift 31), ("INTNUM", .shift 33), ("ONES", .shift 34), ("STRING", .shift 36), ("ZEROS", .shift 35), ("[", .shift 25)],
    /- 65 -/ [("(", .shift 24), ("-", .shift 23), ("EYE", .shift 32), ("FLOATNUM", .shift 37), ("ID", .shift 31), ("INTNUM", .shift 33), ("ONES", .shift 34), ("STRING", .shift 36), ("ZEROS", .shift 35), ("[", .shift 25)],
    /- 66 -/ [("(", .shift 24), ("-", .shift 23), ("EYE", .shift 32), ("FLOATNUM", .shift 37), ("ID", .shift 31), ("INTNUM", .shift 33), ("ONES", .shift 34), ("STRING", .shift 36), ("ZEROS", .shift 35), ("[", .shift 25)],
    /- 67 -/ [("(", .shift 24), ("-", .shift 23), ("EYE", .shift 32), ("FLOATNUM", .shift 37), ("ID", .shift 31), ("INTNUM", .shift 33), ("ONES", .shift 34), ("STRING", .shift 36), ("ZEROS", .shift 35), ("[", .shift 25)],
    /- 68 -/ [("(", .shift 24), ("-", .shift 23), ("EYE", .shift 32), ("FLOATNUM", .shift 37), ("ID", .shift 31), ("INTNUM", .shift 33), ("ONES", .shift 34), ("STRING", .shift 36), ("ZEROS", .shift 35), ("[", .shift 25)],
    /- 69 -/ [("'", .shift 62), (")", .reduce 45), ("*", .reduce 45), ("+", .reduce 45), (",", .reduce 45), ("-", .reduce 45), ("/", .reduce 45), (";", .reduce 45), ("<", .reduce 45), (">", .reduce 45), ("BREAK", .reduce 45), ("CONTINUE", .reduce 45), ("DOTADD", .reduce 45), ("DOTDIV", .reduce 45), ("DOTMUL", .reduce 45), ("DOTSUB", .reduce 45), ("EQ", .reduce 45), ("FOR", .reduce 45), ("GE", .reduce 45), ("ID", .reduce 45), ("IF", .reduce 45), ("LE", .reduce 45), ("NE", .reduce 45), ("PRINT", .reduce 45), ("RETURN", .reduce 45), ("WHILE", .reduce 45), ("\x7b", .reduce 45)],
    /- 70 -/ [("'", .shift 62), (")", .shift 113), ("*", .shift 59), ("+", .shift 61), ("-", .shift 60), ("/", .shift 58), ("<", .shift 68), (">", .shift 67), ("DOTADD", .shift 57), ("DOTDIV", .shift 54), ("DOTMUL", .shift 55), ("DOTSUB", .shift 56), ("EQ", .shift 64), ("GE", .shift 65), ("LE", .shift 66), ("NE", .shift 63)],
    /- 71 -/ [("INTNUM", .shift 74)],
    /- 72 -/ [(",", .shift 116), ("]", .shift 115)],
    /- 73 -/ [(",", .shift 118), ("]", .shift 117)],
    /- 74 -/ [(",", .reduce 73), ("]", .reduce 73)],
    /- 75 -/ [(":", .shift 94), ("ID", .shift 92), ("INTNUM", .shift 95)],
    /- 76 -/ [("INTNUM", .shift 120)],
    /- 77 -/ [("INTNUM", .shift 121)],
    /- 78 -/ [("INTNUM", .shift 122)],
    /- 79 -/ [("$end", .reduce 9), (";", .reduce 9), ("BREAK", .reduce 9), ("CONTINUE", .reduce 9), ("ELSE", .reduce 9), ("FOR", .reduce 9), ("ID", .reduce 9), ("IF", .reduce 9), ("PRINT", .reduce 9), ("RETURN", .reduce 9), ("WHILE", .reduce 9), ("\x7b", .reduce 9), ("\x7d", .reduce 9)],
    /- 80 -/ [("$end", .reduce 17), (";", .reduce 17), ("BREAK", .reduce 17), ("CONTINUE", .reduce 17), ("ELSE", .reduce 17), ("FOR", .reduce 17), ("ID", .reduce 17), ("IF", .reduce 17), ("PRINT", .reduce 17), ("RETURN", .reduce 17), ("WHILE", .reduce 17), ("\x7b", .reduce 17), ("\x7d", .reduce 17)],
    /- 81 -/ [("(", .shift 24), ("-", .shift 23), ("EYE", .shift 32), ("FLOATNUM", .shift 37), ("ID", .shift 31), ("INTNUM", .shift 33), ("ONES", .shift 34), ("STRING", .shift 36), ("ZEROS", .shift 35), ("[", .shift 25)],
    /- 82 -/ [("(", .shift 24), ("-", .shift 23), ("EYE", .shift 32), ("FLOATNUM", .shift 37), ("ID", .shift 31), ("INTNUM", .shift 33), ("ONES", .shift 34), ("STRING", .shift 36), ("ZEROS", .shift 35), ("[", .shift 25)],
    /- 83 -/ [("(", .shift 24), ("-", .shift 23), ("EYE", .shift 32), ("FLOATNUM", .shift 37), ("ID", .shift 31), ("INTNUM", .shift 33), ("ONES", .shift 34), ("STRING", .shift 36), ("ZEROS", .shift 35), ("[", .shift 25)],
    /- 84 -/ [("(", .shift 24), ("-", .shift 23), ("EYE", .shift 32), ("FLOATNUM", .shift 37), ("ID", .shift 31), ("INTNUM", .shift 33), ("ONES", .shift 34), ("STRING", .shift 36), ("ZEROS", .shift 35), ("[", .shift 25)],
    /- 85 -/ [("(", .shift 24), ("-", .shift 23), ("EYE", .shift 32), ("FLOATNUM", .shift 37), ("ID", .shift 31), ("INTNUM", .shift 33), ("ONES", .shift 34), ("STRING", .shift 36), ("ZEROS", .shift 35), ("[", .shift 25)],
    /- 86 -/ [("'", .shift 62), ("*", .shift 59), ("+", .shift 61), ("-", .shift 60), ("/", .shift 58), (";", .shift 128), ("<", .shift 68), (">", .shift 67), ("DOTADD", .shift 57), ("DOTDIV", .shift 54), ("DOTMUL", .shift 55), ("DOTSUB", .shift 56), ("EQ", .shift 64), ("GE", .shift 65), ("LE", .shift 66), ("NE", .shift 63)],
    /- 87 -/ [("'", .shift 62), ("*", .shift 59), ("+", .shift 61), ("-", .shift 60), ("/", .shift 58), (";", .shift 129), ("<", .shift 68), (">", .shift 67), ("DOTADD", .shift 57), ("DOTDIV", .shift 54), ("DOTMUL", .shift 55), ("DOTSUB", .shift 56), ("EQ", .shift 64), ("GE", .shift 65), ("LE", .shift 66), ("NE", .shift 63)],
    /- 88 -/ [("'", .shift 62), ("*", .shift 59), ("+", .shift 61), ("-", .shift 60), ("/", .shift 58), (";", .shift 130), ("<", .shift 68), (">", .shift 67), ("DOTADD", .shift 57), ("DOTDIV", .shift 54), ("DOTMUL", .shift 55), ("DOTSUB", .shift 56), ("EQ", .shift 64), ("GE", .shift 65), ("LE", .shift 66), ("NE", .shift 63)],
    /- 89 -/ [("'", .shift 62), ("*", .shift 59), ("+", .shift 61), ("-", .shift 60), ("/", .shift 58), (";", .shift 131), ("<", .shift 68), (">", .shift 67), ("DOTADD", .shift 57), ("DOTDIV", .shift 54), ("DOTMUL", .shift 55), ("DOTSUB", .shift 56), ("EQ", .shift 64), ("GE", .shift 65), ("LE", .shift 66), ("NE", .shift 63)],
    /- 90 -/ [("'", .shift 62), ("*", .shift 59), ("+", .shift 61), ("-", .shift 60), ("/", .shift 58), (";", .shift 132), ("<", .shift 68), (">", .shift 67), ("DOTADD", .shift 57), ("DOTDIV", .shift 54), ("DOTMUL", .shift 55), ("DOTSUB", .shift 56), ("EQ", .shift 64), ("GE", .shift 65), ("LE", .shift 66), ("NE", .shift 63)],
    /- 91 -/ [("ID", .shift 92), ("INTNUM", .shift 95)],
    /- 92 -/ [(",", .reduce 32), (":", .reduce 32), ("]", .reduce 32)],
    /- 93 -/ [(",", .shift 136), (":", .shift 134), ("]", .shift 135)],
    /- 94 -/ [("ID", .shift 92), ("INTNUM", .shift 95)],
    /- 95 -/ [(",", .reduce 31), (":", .reduce 31), ("]", .reduce 31)],
    /- 96 -/ [("'", .reduce 48), (")", .shift 138), ("*", .reduce 48), ("+", .reduce 48), ("-", .reduce 48), ("/", .reduce 48), ("<", .reduce 48), (">", .reduce 48), ("DOTADD", .reduce 48), ("DOTDIV", .reduce 48), ("DOTMUL", .reduce 48), ("DOTSUB", .reduce 48), ("EQ", .reduce 48), ("GE", .reduce 48), ("LE", .reduce 48), ("NE", .reduce 48)],
    /- 97 -/ [("'", .shift 62), ("*", .shift 59), ("+", .shift 61), ("-", .shift 60), ("/", .shift 58), ("<", .shift 68), (">", .shift 67), ("DOTADD", .shift 57), ("DOTDIV", .shift 54), ("DOTMUL", .shift 55), ("DOTSUB", .shift 56), ("EQ", .shift 64), ("GE", .shift 65), ("LE", .shift 66), ("NE", .shift 63)],
    /- 98 -/ [("'", .reduce 48), (")", .shift 139), ("*", .reduce 48), ("+", .reduce 48), ("-", .reduce 48), ("/", .reduce 48), ("<", .reduce 48), (">", .reduce 48), ("DOTADD", .reduce 48), ("DOTDIV", .reduce 48), ("DOTMUL", .reduce 48), ("DOTSUB", .reduce 48), ("EQ", .reduce 48), ("GE", .reduce 48), ("LE", .reduce 48), ("NE", .reduce 48)],
    /- 99 -/ [("'", .shift 62), (")", .reduce 33), ("*", .reduce 33), ("+", .reduce 33), (",", .reduce 33), ("-", .reduce 33), ("/", .reduce 33), (";", .reduce 33), ("<", .reduce 33), (">", .reduce 33), ("BREAK", .reduce 33), ("CONTINUE", .reduce 33), ("DOTADD", .reduce 33), ("DOTDIV", .reduce 33), ("DOTMUL", .reduce 33), ("DOTSUB", .reduce 33), ("EQ", .reduce 33), ("FOR", .reduce 33), ("GE", .reduce 33), ("ID", .reduce 33), ("IF", .reduce 33), ("LE", .reduce 33), ("NE", .reduce 33), ("PRINT", .reduce 33), ("RETURN", .reduce 33), ("WHILE", .reduce 33), ("\x7b", .reduce 33)],
    /- 100 -/ [("'", .shift 62), (")", .reduce 34), ("*", .reduce 34), ("+", .reduce 34), (",", .reduce 34), ("-", .reduce 34), ("/", .reduce 34), (";", .reduce 34), ("<", .reduce 34), (">", .reduce 34), ("BREAK", .reduce 34), ("CONTINUE", .reduce 34), ("DOTADD", .reduce 34), ("DOTDIV", .reduce 34), ("DOTMUL", .reduce 34), ("DOTSUB", .reduce 34), ("EQ", .reduce 34), ("FOR", .reduce 34), ("GE", .reduce 34), ("ID", .reduce 34), ("IF", .reduce 34), ("LE", .reduce 34), ("NE", .reduce 34), ("PRINT", .reduce 34), ("RETURN", .reduce 34), ("WHILE", .reduce 34), ("\x7b", .reduce 34)],
    /- 101 -/ [("'", .shift 62), (")", .reduce 35), ("*", .reduce 35), ("+", .reduce 35), (",", .reduce 35), ("-", .reduce 35), ("/", .reduce 35), (";", .reduce 35), ("<", .reduce 35), (">", .reduce 35), ("BREAK", .reduce 35), ("CONTINUE", .reduce 35), ("DOTADD", .reduce 35), ("DOTDIV", .shift 54), ("DOTMUL", .shift 55), ("DOTSUB", .reduce 35), ("EQ", .reduce 35), ("FOR", .reduce 35), ("GE", .reduce 35), ("ID", .reduce 35), ("IF", .reduce 35), ("LE", .reduce 35), ("NE", .reduce 35), ("PRINT", .reduce 35), ("RETURN", .reduce 35), ("WHILE", .reduce 35), ("\x7b", .reduce 35)],
    /- 102 -/ [("'", .shift 62), (")", .reduce 36), ("*", .reduce 36), ("+", .reduce 36), (",", .reduce 36), ("-", .reduce 36), ("/", .reduce 36), (";", .reduce 36), ("<", .reduce 36), (">", .reduce 36), ("BREAK", .reduce 36), ("CONTINUE", .reduce 36), ("DOTADD", .reduce 36), ("DOTDIV", .shift 54), ("DOTMUL", .shift 55), ("DOTSUB", .reduce 36), ("EQ", .reduce 36), ("FOR", .reduce 36), ("GE", .reduce 36), ("ID", .reduce 36), ("IF", .reduce 36), ("LE", .reduce 36), ("NE", .reduce 36), ("PRINT", .reduce 36), ("RETURN", .reduce 36), ("WHILE", .reduce 36), ("\x7b", .reduce 36)],
    /- 103 -/ [("'", .shift 62), (")", .reduce 37), ("*", .reduce 37), ("+", .reduce 37), (",", .reduce 37), ("-", .reduce 37), ("/", .reduce 37), (";", .reduce 37), ("<", .reduce 37), (">", .reduce 37), ("BREAK", .reduce 37), ("CONTINUE", .reduce 37), ("DOTADD", .shift 57), ("DOTDIV", .shift 54), ("DOTMUL", .shift 55), ("DOTSUB", .shift 56), ("EQ", .reduce 37), ("FOR", .reduce 37), ("GE", .reduce 37), ("ID", .reduce 37), ("IF", .reduce 37), ("LE", .reduce 37), ("NE", .reduce 37), ("PRINT", .reduce 37), ("RETURN", .reduce 37), ("WHILE", .reduce 37), ("\x7b", .reduce 37)],
    /- 104 -/ [("'", .shift 62), (")", .reduce 38), ("*", .reduce 38), ("+", .reduce 38), (",", .reduce 38), ("-", .reduce 38), ("/", .reduce 38), (";", .reduce 38), ("<", .reduce 38), (">", .reduce 38), ("BREAK", .reduce 38), ("CONTINUE", .reduce 38), ("DOTADD", .shift 57), ("DOTDIV", .shift 54), ("DOTMUL", .shift 55), ("DOTSUB", .shift 56), ("EQ", .reduce 38), ("FOR", .reduce 38), ("GE", .reduce 38), ("ID", .reduce 38), ("IF", .reduce 38), ("LE", .reduce 38), ("NE", .reduce 38), ("PRINT", .reduce 38), ("RETURN", .reduce 38), ("WHILE", .reduce 38), ("\x7b", .reduce 38)],
    /- 105 -/ [("'", .shift 62), (")", .reduce 39), ("*", .shift 59), ("+", .reduce 39), (",", .reduce 39), ("-", .reduce 39), ("/", .shift 58), (";", .reduce 39), ("<", .reduce 39), (">", .reduce 39), ("BREAK", .reduce 39), ("CONTINUE", .reduce 39), ("DOTADD", .shift 57), ("DOTDIV", .shift 54), ("DOTMUL", .shift 55), ("DOTSUB", .shift 56), ("EQ", .reduce 39), ("FOR", .reduce 39), ("GE", .reduce 39), ("ID", .reduce 39), ("IF", .reduce 39), ("LE", .reduce 39), ("NE", .reduce 39), ("PRINT", .reduce 39), ("RETURN", .reduce 39), ("WHILE", .reduce 39), ("\x7b", .reduce 39)],
    /- 106 -/ [("'", .shift 62), (")", .reduce 40), ("*", .shift 59), ("+", .reduce 40), (",", .reduce 40), ("-", .reduce 40), ("/", .shift 58), (";", .reduce 40), ("<", .reduce 40), (">", .reduce 40), ("BREAK", .reduce 40), ("CONTINUE", .reduce 40), ("DOTADD", .shift 57), ("DOTDIV", .shift 54), ("DOTMUL", .shift 55), ("DOTSUB", .shift 56), ("EQ", .reduce 40), ("FOR", .reduce 40), ("GE", .reduce 40), ("ID", .reduce 40), ("IF", .reduce 40), ("LE", .reduce 40), ("NE", .reduce 40), ("PRINT", .reduce 40), ("RETURN", .reduce 40), ("WHILE", .reduce 40), ("\x7b", .reduce 40)],
    /- 107 -/ [("'", .shift 62), (")", .reduce 56), ("*", .shift 59), ("+", .shift 61), (",", .reduce 56), ("-", .shift 60), ("/", .shift 58), (";", .reduce 56), ("<", .blocked), (">", .blocked), ("BREAK", .reduce 56), ("CONTINUE", .reduce 56), ("DOTADD", .shift 57), ("DOTDIV", .shift 54), ("DOTMUL", .shift 55), ("DOTSUB", .shift 56), ("EQ", .blocked), ("FOR", .reduce 56), ("GE", .blocked), ("ID", .reduce 56), ("IF", .reduce 56), ("LE", .blocked), ("NE", .blocked), ("PRINT", .reduce 56), ("RETURN", .reduce 56), ("WHILE", .reduce 56), ("\x7b", .reduce 56)],
    /- 108 -/ [("'", .shift 62), (")", .reduce 57), ("*", .shift 59), ("+", .shift 61), (",", .reduce 57), ("-", .shift 60), ("/", .shift 58), (";", .reduce 57), ("<", .blocked), (">", .blocked), ("BREAK", .reduce 57), ("CONTINUE", .reduce 57), ("DOTADD", .shift 57), ("DOTDIV", .shift 54), ("DOTMUL", .shift 55), ("DOTSUB", .shift 56), ("EQ", .blocked), ("FOR", .reduce 57), ("GE", .blocked), ("ID", .reduce 57), ("IF", .reduce 57), ("LE", .blocked), ("NE", .blocked), ("PRINT", .reduce 57), ("RETURN", .reduce 57), ("WHILE", .reduce 57), ("\x7b", .reduce 57)],
    /- 109 -/ [("'", .shift 62), (")", .reduce 58), ("*", .shift 59), ("+", .shift 61), (",", .reduce 58), ("-", .shift 60), ("/", .shift 58), (";", .reduce 58), ("<", .blocked), (">", .blocked), ("BREAK", .reduce 58), ("CONTINUE", .reduce 58), ("DOTADD", .shift 57), ("DOTDIV", .shift 54), ("DOTMUL", .shift 55), ("DOTSUB", .shift 56), ("EQ", .blocked), ("FOR", .reduce 58), ("GE", .blocked), ("ID", .reduce 58), ("IF", .reduce 58), ("LE", .blocked), ("NE", .blocked), ("PRINT", .reduce 58), ("RETURN", .reduce 58), ("WHILE", .reduce 58), ("\x7b", .reduce 58)],
    /- 110 -/ [("'", .shift 62), (")", .reduce 59), ("*", .shift 59), ("+", .shift 61), (",", .reduce 59), ("-", .shift 60), ("/", .shift 58), (";", .reduce 59), ("<", .blocked), (">", .blocked), ("BREAK", .reduce 59), ("CONTINUE", .reduce 59), ("DOTADD", .shift 57), ("DOTDIV", .shift 54), ("DOTMUL", .shift 55), ("DOTSUB", .shift 56), ("EQ", .blocked), ("FOR", .reduce 59), ("GE", .blocked), ("ID", .reduce 59), ("IF", .reduce 59), ("LE", .blocked), ("NE", .blocked), ("PRINT", .reduce 59), ("RETURN", .reduce 59), ("WHILE", .reduce 59), ("\x7b", .reduce 59)],
    /- 111 -/ [("'", .shift 62), (")", .reduce 60), ("*", .shift 59), ("+", .shift 61), (",", .reduce 60), ("-", .shift 60), ("/", .shift 58), (";", .reduce 60), ("<", .blocked), (">", .blocked), ("BREAK", .reduce 60), ("CONTINUE", .reduce 60), ("DOTADD", .shift 57), ("DOTDIV", .shift 54), ("DOTMUL", .shift 55), ("DOTSUB", .shift 56), ("EQ", .blocked), ("FOR", .reduce 60), ("GE", .blocked), ("ID", .reduce 60), ("IF", .reduce 60), ("LE", .blocked), ("NE", .blocked), ("PRINT", .reduce 60), ("RETURN", .reduce 60), ("WHILE", .reduce 60), ("\x7b", .reduce 60)],
    /- 112 -/ [("'", .shift 62), (")", .reduce 61), ("*", .shift 59), ("+", .shift 61), (",", .reduce 61), ("-", .shift 60), ("/", .shift 58), (";", .reduce 61), ("<", .blocked), (">", .blocked), ("BREAK", .reduce 61), ("CONTINUE", .reduce 61), ("DOTADD", .shift 57), ("DOTDIV", .shift 54), ("DOTMUL", .shift 55), ("DOTSUB", .shift 56), ("EQ", .blocked), ("FOR", .reduce 61), ("GE", .blocked), ("ID", .reduce 61), ("IF", .reduce 61), ("LE", .blocked), ("NE", .blocked), ("PRINT", .reduce 61), ("RETURN", .reduce 61), ("WHILE", .reduce 61), ("\x7b", .reduce 61)],
    /- 113 -/ [("'", .reduce 41), (")", .reduce 41), ("*", .reduce 41), ("+", .reduce 41), (",", .reduce 41), ("-", .reduce 41), ("/", .reduce 41), (";", .reduce 41), ("<", .reduce 41), (">", .reduce 41), ("BREAK", .reduce 41), ("CONTINUE", .reduce 41), ("DOTADD", .reduce 41), ("DOTDIV", .reduce 41), ("DOTMUL", .reduce 41), ("DOTSUB", .reduce 41), ("EQ", .reduce 41), ("FOR", .reduce 41), ("GE", .reduce 41), ("ID", .reduce 41), ("IF", .reduce 41), ("LE", .reduce 41), ("NE", .reduce 41), ("PRINT", .reduce 41), ("RETURN", .reduce 41), ("WHILE", .reduce 41), ("\x7b", .reduce 41)],
    /- 114 -/ [(",", .shift 116), ("]", .shift 140)],
    /- 115 -/ [("'", .reduce 43), (")", .reduce 43), ("*", .reduce 43), ("+", .reduce 43), (",", .reduce 43), ("-", .reduce 43), ("/", .reduce 43), (";", .reduce 43), ("<", .reduce 43), (">", .reduce 43), ("BREAK", .reduce 43), ("CONTINUE", .reduce 43), ("DOTADD", .reduce 43), ("DOTDIV", .reduce 43), ("DOTMUL", .reduce 43), ("DOTSUB", .reduce 43), ("EQ", .reduce 43), ("FOR", .reduce 43), ("GE", .reduce 43), ("ID", .reduce 43), ("IF", .reduce 43), ("LE", .reduce 43), ("NE", .reduce 43), ("PRINT", .reduce 43), ("RETURN", .reduce 43), ("WHILE", .reduce 43), ("\x7b", .reduce 43)],
    /- 116 -/ [("INTNUM", .shift 141)],
    /- 117 -/ [("'", .reduce 44), (")", .reduce 44), ("*", .reduce 44), ("+", .reduce 44), (",", .reduce 44), ("-", .reduce 44), ("/", .reduce 44), (";", .reduce 44), ("<", .reduce 44), (">", .reduce 44), ("BREAK", .reduce 44), ("CONTINUE", .reduce 44), ("DOTADD", .reduce 44), ("DOTDIV", .reduce 44), ("DOTMUL", .reduce 44), ("DOTSUB", .reduce 44), ("EQ", .reduce 44), ("FOR", .reduce 44), ("GE", .reduce 44), ("ID", .reduce 44), ("IF", .reduce 44), ("LE", .reduce 44), ("NE", .reduce 44), ("PRINT", .reduce 44), ("RETURN", .reduce 44), ("WHILE", .reduce 44), ("\x7b", .reduce 44)],
    /- 118 -/ [("[", .shift 142)],
    /- 119 -/ [(",", .shift 136), (":", .shift 134), ("]", .shift 135)],
    /- 120 -/ [(")", .shift 143)],
    /- 121 -/ [(")", .shift 144)],
    /- 122 -/ [(")", .shift 145)],
    /- 123 -/ [(",", .reduce 19), (";", .reduce 19)],
    /- 124 -/ [("'", .shift 62), ("*", .reduce 37), ("+", .reduce 37), (",", .reduce 20), ("-", .reduce 37), ("/", .reduce 37), (";", .reduce 20), ("<", .reduce 37), (">", .reduce 37), ("DOTADD", .shift 57), ("DOTDIV", .shift 54), ("DOTMUL", .shift 55), ("DOTSUB", .shift 56), ("EQ", .reduce 37), ("GE", .reduce 37), ("LE", .reduce 37), ("NE", .reduce 37)],
    /- 125 -/ [("'", .shift 62), ("*", .reduce 38), ("+", .reduce 38), (",", .reduce 21), ("-", .reduce 38), ("/", .reduce 38), (";", .reduce 21), ("<", .reduce 38), (">", .reduce 38), ("DOTADD", .shift 57), ("DOTDIV", .shift 54), ("DOTMUL", .shift 55), ("DOTSUB", .shift 56), ("EQ", .reduce 38), ("GE", .reduce 38), ("LE", .reduce 38), ("NE", .reduce 38)],
    /- 126 -/ [("'", .shift 62), ("*", .shift 59), ("+", .reduce 39), (",", .reduce 22), ("-", .reduce 39), ("/", .shift 58), (";", .reduce 22), ("<", .reduce 39), (">", .reduce 39), ("DOTADD", .shift 57), ("DOTDIV", .shift 54), ("DOTMUL", .shift 55), ("DOTSUB", .shift 56), ("EQ", .reduce 39), ("GE", .reduce 39), ("LE", .reduce 39), ("NE", .reduce 39)],
    /- 127 -/ [("'", .shift 62), ("*", .shift 59), ("+", .reduce 40), (",", .reduce 23), ("-", .reduce 40), ("/", .shift 58), (";", .reduce 23), ("<", .reduce 40), (">", .reduce 40), ("DOTADD", .shift 57), ("DOTDIV", .shift 54), ("DOTMUL", .shift 55), ("DOTSUB", .shift 56), ("EQ", .reduce 40), ("GE", .reduce 40), ("LE", .reduce 40), ("NE", .reduce 40)],
    /- 128 -/ [("$end", .reduce 51), ("'", .reduce 51), (")", .reduce 51), ("*", .reduce 51), ("+", .reduce 51), (",", .reduce 51), ("-", .reduce 51), ("/", .reduce 51), (";", .reduce 51), ("<", .reduce 51), (">", .reduce 51), ("BREAK", .reduce 51), ("CONTINUE", .reduce 51), ("DOTADD", .reduce 51), ("DOTDIV", .reduce 51), ("DOTMUL", .reduce 51), ("DOTSUB", .reduce 51), ("ELSE", .reduce 51), ("EQ", .reduce 51), ("FOR", .reduce 51), ("GE", .reduce 51), ("ID", .reduce 51), ("IF", .reduce 51), ("LE", .reduce 51), ("NE", .reduce 51), ("PRINT", .reduce 51), ("RETURN", .reduce 51), ("WHILE", .reduce 51), ("\x7b", .reduce 51), ("\x7d", .reduce 51)],
    /- 129 -/ [("$end", .reduce 52), ("'", .reduce 52), (")", .reduce 52), ("*", .reduce 52), ("+", .reduce 52), (",", .reduce 52), ("-", .reduce 52), ("/", .reduce 52), (";", .reduce 52), ("<", .reduce 52), (">", .reduce 52), ("BREAK", .reduce 52), ("CONTINUE", .reduce 52), ("DOTADD", .reduce 52), ("DOTDIV", .reduce 52), ("DOTMUL", .reduce 52), ("DOTSUB", .reduce 52), ("ELSE", .reduce 52), ("EQ", .reduce 52), ("FOR", .reduce 52), ("GE", .reduce 52), ("ID", .reduce 52), ("IF", .reduce 52), ("LE", .reduce 52), ("NE", .reduce 52), ("PRINT", .reduce 52), ("RETURN", .reduce 52), ("WHILE", .reduce 52), ("\x7b", .reduce 52), ("\x7d", .reduce 52)],
    /- 130 -/ [("$end", .reduce 53), ("'", .reduce 53), (")", .reduce 53), ("*", .reduce 53), ("+", .reduce 53), (",", .reduce 53), ("-", .reduce 53), ("/", .reduce 53), (";", .reduce 53), ("<", .reduce 53), (">", .reduce 53), ("BREAK", .reduce 53), ("CONTINUE", .reduce 53), ("DOTADD", .reduce 53), ("DOTDIV", .reduce 53), ("DOTMUL", .reduce 53), ("DOTSUB", .reduce 53), ("ELSE", .reduce 53), ("EQ", .reduce 53), ("FOR", .reduce 53), ("GE", .reduce 53), ("ID", .reduce 53), ("IF", .reduce 53), ("LE", .reduce 53), ("NE", .reduce 53), ("PRINT", .reduce 53), ("RETURN", .reduce 53), ("WHILE", .reduce 53), ("\x7b", .reduce 53), ("\x7d", .reduce 53)],
    /- 131 -/ [("$end", .reduce 54), ("'", .reduce 54), (")", .reduce 54), ("*", .reduce 54), ("+", .reduce 54), (",", .reduce 54), ("-", .reduce 54), ("/", .reduce 54), (";", .reduce 54), ("<", .reduce 54), (">", .reduce 54), ("BREAK", .reduce 54), ("CONTINUE", .reduce 54), ("DOTADD", .reduce 54), ("DOTDIV", .reduce 54), ("DOTMUL", .reduce 54), ("DOTSUB", .reduce 54), ("ELSE", .reduce 54), ("EQ", .reduce 54), ("FOR", .reduce 54), ("GE", .reduce 54), ("ID", .reduce 54), ("IF", .reduce 54), ("LE", .reduce 54), ("NE", .reduce 54), ("PRINT", .reduce 54), ("RETURN", .reduce 54), ("WHILE", .reduce 54), ("\x7b", .reduce 54), ("\x7d", .reduce 54)],
    /- 132 -/ [("$end", .reduce 55), ("'", .reduce 55), (")", .reduce 55), ("*", .reduce 55), ("+", .reduce 55), (",", .reduce 55), ("-", .reduce 55), ("/", .reduce 55), (";", .reduce 55), ("<", .reduce 55), (">", .reduce 55), ("BREAK", .reduce 55), ("CONTINUE", .reduce 55), ("DOTADD", .reduce 55), ("DOTDIV", .reduce 55), ("DOTMUL", .reduce 55), ("DOTSUB", .reduce 55), ("ELSE", .reduce 55), ("EQ", .reduce 55), ("FOR", .reduce 55), ("GE", .reduce 55), ("ID", .reduce 55), ("IF", .reduce 55), ("LE", .reduce 55), ("NE", .reduce 55), ("PRINT", .reduce 55), ("RETURN", .reduce 55), ("WHILE", .reduce 55), ("\x7b", .reduce 55), ("\x7d", .reduce 55)],
    /- 133 -/ [(":", .shift 146)],
    /- 134 -/ [("ID", .shift 92), ("INTNUM", .shift 95), ("]", .shift 148)],
    /- 135 -/ [("'", .reduce 65), (")", .reduce 65), ("*", .reduce 65), ("+", .reduce 65), (",", .reduce 65), ("-", .reduce 65), ("/", .reduce 65), (";", .reduce 65), ("<", .reduce 65), ("=", .reduce 65), (">", .reduce 65), ("ADDASSIGN", .reduce 65), ("BREAK", .reduce 65), ("CONTINUE", .reduce 65), ("DIVASSIGN", .reduce 65), ("DOTADD", .reduce 65), ("DOTDIV", .reduce 65), ("DOTMUL", .reduce 65), ("DOTSUB", .reduce 65), ("EQ", .reduce 65), ("FOR", .reduce 65), ("GE", .reduce 65), ("ID", .reduce 65), ("IF", .reduce 65), ("LE", .reduce 65), ("MULASSIGN", .reduce 65), ("NE", .reduce 65), ("PRINT", .reduce 65), ("RETURN", .reduce 65), ("SUBASSIGN", .reduce 65), ("WHILE", .reduce 65), ("\x7b", .reduce 65)],
    /- 136 -/ [("ID", .shift 92), ("INTNUM", .shift 95)],
    /- 137 -/ [("]", .shift 150)],
    /- 138 -/ [(";", .shift 4), ("BREAK", .shift 12), ("CONTINUE", .shift 11), ("FOR", .shift 15), ("ID", .shift 16), ("IF", .shift 18), ("PRINT", .shift 13), ("RETURN", .shift 3), ("WHILE", .shift 17), ("\x7b", .shift 10)],
    /- 139 -/ [(";", .shift 4), ("BREAK", .shift 12), ("CONTINUE", .shift 11), ("FOR", .shift 15), ("ID", .shift 16), ("IF", .shift 18), ("PRINT", .shift 13), ("RETURN", .shift 3), ("WHILE", .shift 17), ("\x7b", .shift 10)],
    /- 140 -/ [(",", .reduce 71), ("]", .reduce 71)],
    /- 141 -/ [(",", .reduce 72), ("]", .reduce 72)],
    /- 142 -/ [("INTNUM", .shift 74)],
    /- 143 -/ [("'", .reduce 74), (")", .reduce 74), ("*", .reduce 74), ("+", .reduce 74), (",", .reduce 74), ("-", .reduce 74), ("/", .reduce 74), (";", .reduce 74), ("<", .reduce 74), (">", .reduce 74), ("BREAK", .reduce 74), ("CONTINUE", .reduce 74), ("DOTADD", .reduce 74), ("DOTDIV", .reduce 74), ("DOTMUL", .reduce 74), ("DOTSUB", .reduce 74), ("EQ", .reduce 74), ("FOR", .reduce 74), ("GE", .reduce 74), ("ID", .reduce 74), ("IF", .reduce 74), ("LE", .reduce 74), ("NE", .reduce 74), ("PRINT", .reduce 74), ("RETURN", .reduce 74), ("WHILE", .reduce 74), ("\x7b", .reduce 74)],
    /- 144 -/ [("'", .reduce 75), (")", .reduce 75), ("*", .reduce 75), ("+", .reduce 75), (",", .reduce 75), ("-", .reduce 75), ("/", .reduce 75), (";", .reduce 75), ("<", .reduce 75), (">", .reduce 75), ("BREAK", .reduce 75), ("CONTINUE", .reduce 75), ("DOTADD", .reduce 75), ("DOTDIV", .reduce 75), ("DOTMUL", .reduce 75), ("DOTSUB", .reduce 75), ("EQ", .reduce 75), ("FOR", .reduce 75), ("GE", .reduce 75), ("ID", .reduce 75), ("IF", .reduce 75), ("LE", .reduce 75), ("NE", .reduce 75), ("PRINT", .reduce 75), ("RETURN", .reduce 75), ("WHILE", .reduce 75), ("\x7b", .reduce 75)],
    /- 145 -/ [("'", .reduce 76), (")", .reduce 76), ("*", .reduce 76), ("+", .reduce 76), (",", .reduce 76), ("-", .reduce 76), ("/", .reduce 76), (";", .reduce 76), ("<", .reduce 76), (">", .reduce 76), ("BREAK", .reduce 76), ("CONTINUE", .reduce 76), ("DOTADD", .reduce 76), ("DOTDIV", .reduce 76), ("DOTMUL", .reduce 76), ("DOTSUB", .reduce 76), ("EQ", .reduce 76), ("FOR", .reduce 76), ("GE", .reduce 76), ("ID", .reduce 76), ("IF", .reduce 76), ("LE", .reduce 76), ("NE", .reduce 76), ("PRINT", .reduce 76), ("RETURN", .reduce 76), ("WHILE", .reduce 76), ("\x7b", .reduce 76)],
    /- 146 -/ [("(", .shift 24), ("-", .shift 23), ("EYE", .shift 32), ("FLOATNUM", .shift 37), ("ID", .shift 154), ("INTNUM", .shift 156), ("ONES", .shift 34), ("STRING", .shift 36), ("ZEROS", .shift 35), ("[", .shift 25)],
    /- 147 -/ [("]", .shift 158)],
    /- 148 -/ [("=", .reduce 67), ("ADDASSIGN", .reduce 67), ("DIVASSIGN", .reduce 67), ("MULASSIGN", .reduce 67), ("SUBASSIGN", .reduce 67)],
    /- 149 -/ [("]", .shift 159)],
    /- 150 -/ [("=", .reduce 68), ("ADDASSIGN", .reduce 68), ("DIVASSIGN", .reduce 68), ("MULASSIGN", .reduce 68), ("SUBASSIGN", .reduce 68)],
    /- 151 -/ [("$end", .reduce 15), (";", .reduce 15), ("BREAK", .reduce 15), ("CONTINUE", .reduce 15), ("ELSE", .reduce 15), ("FOR", .reduce 15), ("ID", .reduce 15), ("IF", .reduce 15), ("PRINT", .reduce 15), ("RETURN", .reduce 15), ("WHILE", .reduce 15), ("\x7b", .reduce 15), ("\x7d", .reduce 15)],
    /- 152 -/ [("$end", .reduce 13), (";", .reduce 13), ("BREAK", .reduce 13), ("CONTINUE", .reduce 13), ("ELSE", .shift 160), ("FOR", .reduce 13), ("ID", .reduce 13), ("IF", .reduce 13), ("PRINT", .reduce 13), ("RETURN", .reduce 13), ("WHILE", .reduce 13), ("\x7b", .reduce 13), ("\x7d", .reduce 13)],
    /- 153 -/ [(",", .shift 116), ("]", .shift 161)],
    /- 154 -/ [("'", .reduce 78), ("*", .reduce 78), ("+", .reduce 78), ("-", .reduce 78), ("/", .reduce 78), (";", .reduce 26), ("<", .reduce 78), ("=", .reduce 64), (">", .reduce 78), ("ADDASSIGN", .reduce 64), ("BREAK", .reduce 26), ("CONTINUE", .reduce 26), ("DIVASSIGN", .reduce 64), ("DOTADD", .reduce 78), ("DOTDIV", .reduce 78), ("DOTMUL", .reduce 78), ("DOTSUB", .reduce 78), ("EQ", .reduce 78), ("FOR", .reduce 26), ("GE", .reduce 78), ("ID", .reduce 26), ("IF", .reduce 26), ("LE", .reduce 78), ("MULASSIGN", .reduce 64), ("NE", .reduce 78), ("PRINT", .reduce 26), ("RETURN", .reduce 26), ("SUBASSIGN", .reduce 64), ("WHILE", .reduce 26), ("[", .shift 75), ("\x7b", .reduce 26)],
    /- 155 -/ [(";", .shift 4), ("BREAK", .shift 12), ("CONTINUE", .shift 11), ("FOR", .shift 15), ("ID", .shift 16), ("IF", .shift 18), ("PRINT", .shift 13), ("RETURN", .shift 3), ("WHILE", .shift 17), ("\x7b", .shift 10)],
    /- 156 -/ [("'", .reduce 80), ("*", .reduce 80), ("+", .reduce 80), ("-", .reduce 80), ("/", .reduce 80), (";", .reduce 25), ("<", .reduce 80), (">", .reduce 80), ("BREAK", .reduce 25), ("CONTINUE", .reduce 25), ("DOTADD", .reduce 80), ("DOTDIV", .reduce 80), ("DOTMUL", .reduce 80), ("DOTSUB", .reduce 80), ("EQ", .reduce 80), ("FOR", .reduce 25), ("GE", .reduce 80), ("ID", .reduce 25), ("IF", .reduce 25), ("LE", .reduce 80), ("NE", .reduce 80), ("PRINT", .reduce 25), ("RETURN", .reduce 25), ("WHILE", .reduce 25), ("\x7b", .reduce 25)],
    /- 157 -/ [("'", .shift 62), ("*", .shift 164), ("+", .shift 166), ("-", .shift 165), ("/", .shift 163), ("<", .shift 68), (">", .shift 67), ("DOTADD", .shift 57), ("DOTDIV", .shift 54), ("DOTMUL", .shift 55), ("DOTSUB", .shift 56), ("EQ", .shift 64), ("GE", .shift 65), ("LE", .shift 66), ("NE", .shift 63)],
    /- 158 -/ [("=", .reduce 69), ("ADDASSIGN", .reduce 69), ("DIVASSIGN", .reduce 69), ("MULASSIGN", .reduce 69), ("SUBASSIGN", .reduce 69)],
    /- 159 -/ [("'", .reduce 66), (")", .reduce 66), ("*", .reduce 66), ("+", .reduce 66), (",", .reduce 66), ("-", .reduce 66), ("/", .reduce 66), (";", .reduce 66), ("<", .reduce 66), ("=", .reduce 66), (">", .reduce 66), ("ADDASSIGN", .reduce 66), ("BREAK", .reduce 66), ("CONTINUE", .reduce 66), ("DIVASSIGN", .reduce 66), ("DOTADD", .reduce 66), ("DOTDIV", .reduce 66), ("DOTMUL", .reduce 66), ("DOTSUB", .reduce 66), ("EQ", .reduce 66), ("FOR", .reduce 66), ("GE", .reduce 66), ("ID", .reduce 66), ("IF", .reduce 66), ("LE", .reduce 66), ("MULASSIGN", .reduce 66), ("NE", .reduce 66), ("PRINT", .reduce 66), ("RETURN", .reduce 66), ("SUBASSIGN", .reduce 66), ("WHILE", .reduce 66), ("\x7b", .reduce 66)],
    /- 160 -/ [(";", .shift 4), ("BREAK", .shift 12), ("CONTINUE", .shift 11), ("FOR", .shift 15), ("ID", .shift 16), ("IF", .shift 18), ("PRINT", .shift 13), ("RETURN", .shift 3), ("WHILE", .shift 17), ("\x7b", .shift 10)],
    /- 161 -/ [(",", .reduce 70), ("]", .reduce 70)],
    /- 162 -/ [("$end", .reduce 16), (";", .reduce 16), ("BREAK", .reduce 16), ("CONTINUE", .reduce 16), ("ELSE", .reduce 16), ("FOR", .reduce 16), ("ID", .reduce 16), ("IF", .reduce 16), ("PRINT", .reduce 16), ("RETURN", .reduce 16), ("WHILE", .reduce 16), ("\x7b", .reduce 16), ("\x7d", .reduce 16)],
    /- 163 -/ [("(", .shift 24), ("-", .shift 23), ("EYE", .shift 32), ("FLOATNUM", .shift 37), ("ID", .shift 31), ("INTNUM", .shift 33), ("ONES", .shift 34), ("STRING", .shift 36), ("ZEROS", .shift 35), ("[", .shift 25)],
    /- 164 -/ [("(", .shift 24), ("-", .shift 23), ("EYE", .shift 32), ("FLOATNUM", .shift 37), ("ID", .shift 31), ("INTNUM", .shift 33), ("ONES", .shift 34), ("STRING", .shift 36), ("ZEROS", .shift 35), ("[", .shift 25)],
    /- 165 -/ [("(", .shift 24), ("-", .shift 23), ("EYE", .shift 32), ("FLOATNUM", .shift 37), ("ID", .shift 31), ("INTNUM", .shift 33), ("ONES", .shift 34), ("STRING", .shift 36), ("ZEROS", .shift 35), ("[", .shift 25)],
    /- 166 -/ [("(", .shift 24), ("-", .shift 23), ("EYE", .shift 32), ("FLOATNUM", .shift 37), ("ID", .shift 31), ("INTNUM", .shift 33), ("ONES", .shift 34), ("STRING", .shift 36), ("ZEROS", .shift 35), ("[", .shift 25)],
    /- 167 -/ [("$end", .reduce 14), (";", .reduce 14), ("BREAK", .reduce 14), ("CONTINUE", .reduce 14), ("ELSE", .reduce 14), ("FOR", .reduce 14), ("ID", .reduce 14), ("IF", .reduce 14), ("PRINT", .reduce 14), ("RETURN", .reduce 14), ("WHILE", .reduce 14), ("\x7b", .reduce 14), ("\x7d", .reduce 14)],
    /- 168 -/ [("'", .shift 62), ("*", .reduce 37), ("+", .reduce 37), ("-", .reduce 37), ("/", .reduce 37), (";", .reduce 27), ("<", .reduce 37), (">", .reduce 37), ("BREAK", .reduce 27), ("CONTINUE", .reduce 27), ("DOTADD", .shift 57), ("DOTDIV", .shift 54), ("DOTMUL", .shift 55), ("DOTSUB", .shift 56), ("EQ", .reduce 37), ("FOR", .reduce 27), ("GE", .reduce 37), ("ID", .reduce 27), ("IF", .reduce 27), ("LE", .reduce 37), ("NE", .reduce 37), ("PRINT", .reduce 27), ("RETURN", .reduce 27), ("WHILE", .reduce 27), ("\x7b", .reduce 27)],
    /- 169 -/ [("'", .shift 62), ("*", .reduce 38), ("+", .reduce 38), ("-", .reduce 38), ("/", .reduce 38), (";", .reduce 28), ("<", .reduce 38), (">", .reduce 38), ("BREAK", .reduce 28), ("CONTINUE", .reduce 28), ("DOTADD", .shift 57), ("DOTDIV", .shift 54), ("DOTMUL", .shift 55), ("DOTSUB", .shift 56), ("EQ", .reduce 38), ("FOR", .reduce 28), ("GE", .reduce 38), ("ID", .reduce 28), ("IF", .reduce 28), ("LE", .reduce 38), ("NE", .reduce 38), ("PRINT", .reduce 28), ("RETURN", .reduce 28), ("WHILE", .reduce 28), ("\x7b", .reduce 28)],
    /- 170 -/ [("'", .shift 62), ("*", .shift 59), ("+", .reduce 39), ("-", .reduce 39), ("/", .shift 58), (";", .reduce 29), ("<", .reduce 39), (">", .reduce 39), ("BREAK", .reduce 29), ("CONTINUE", .reduce 29), ("DOTADD", .shift 57), ("DOTDIV", .shift 54), ("DOTMUL", .shift 55), ("DOTSUB", .shift 56), ("EQ", .reduce 39), ("FOR", .reduce 29), ("GE", .reduce 39), ("ID", .reduce 29), ("IF", .reduce 29), ("LE", .reduce 39), ("NE", .reduce 39), ("PRINT", .reduce 29), ("RETURN", .reduce 29), ("WHILE", .reduce 29), ("\x7b", .reduce 29)],
    /- 171 -/ [("'", .shift 62), ("*", .shift 59), ("+", .reduce 40), ("-", .reduce 40), ("/", .shift 58), (";", .reduce 30), ("<", .reduce 40), (">", .reduce 40), ("BREAK", .reduce 30), ("CONTINUE", .reduce 30), ("DOTADD", .shift 57), ("DOTDIV", .shift 54), ("DOTMUL", .shift 55), ("DOTSUB", .shift 56), ("EQ", .reduce 40), ("FOR", .reduce 30), ("GE", .reduce 40), ("ID", .reduce 30), ("IF", .reduce 30), ("LE", .reduce 40), ("NE", .reduce 40), ("PRINT", .reduce 30), ("RETURN", .reduce 30), ("WHILE", .reduce 30), ("\x7b", .reduce 30)]]
  goto := #[
    /- 0 -/ [("assign_expression", 6), ("for_statement", 7), ("id_ref", 14), ("if_statement", 9), ("matrix_ref", 20), ("print_statement", 5), ("statement", 2), ("statements", 1), ("tab_ref", 19), ("while_statement", 8)],
    /- 1 -/ [("assign_expression", 6), ("for_statement", 7), ("id_ref", 14), ("if_statement", 9), ("matrix_ref", 20), ("print_statement", 5), ("statement", 21), ("tab_ref", 19), ("while_statement", 8)],
    /- 2 -/ [],
    /- 3 -/ [("assign_expression", 29), ("expression", 22), ("id_ref", 14), ("matrix_funcs", 27), ("matrix_ref", 26), ("relation_expression", 28), ("tab_ref", 19), ("value", 30)],
    /- 4 -/ [],
    /- 5 -/ [],
    /- 6 -/ [],
    /- 7 -/ [],
    /- 8 -/ [],
    /- 9 -/ [],
    /- 10 -/ [("assign_expression", 6), ("for_statement", 7), ("id_ref", 14), ("if_statement", 9), ("matrix_ref", 20), ("print_statement", 5), ("statement", 2), ("statements", 38), ("tab_ref", 19), ("while_statement", 8)],
    /- 11 -/ [],
    /- 12 -/ [],
    /- 13 -/ [("assign_expression", 29), ("expression", 43), ("id_ref", 14), ("matrix_funcs", 27), ("matrix_ref", 26), ("print_expr", 42), ("print_recursive", 41), ("relation_expression", 28), ("tab_ref", 19), ("value", 30)],
    /- 14 -/ [],
    /- 15 -/ [],
    /- 16 -/ [],
    /- 17 -/ [],
    /- 18 -/ [],
    /- 19 -/ [],
    /- 20 -/ [],
    /- 21 -/ [],
    /- 22 -/ [],
    /- 23 -/ [("assign_expression", 29), ("expression", 69), ("id_ref", 14), ("matrix_funcs", 27), ("matrix_ref", 26), ("relation_expression", 28), ("tab_ref", 19), ("value", 30)],
    /- 24 -/ [("assign_expression", 29), ("expression", 70), ("id_ref", 14), ("matrix_funcs", 27), ("matrix_ref", 26), ("relation_expression", 28), ("tab_ref", 19), ("value", 30)],
    /- 25 -/ [("line_of_num", 72), ("matrix_rows", 73)],
    /- 26 -/ [],
    /- 27 -/ [],
    /- 28 -/ [],
    /- 29 -/ [],
    /- 30 -/ [],
    /- 31 -/ [],
    /- 32 -/ [],
    /- 33 -/ [],
    /- 34 -/ [],
    /- 35 -/ [],
    /- 36 -/ [],
    /- 37 -/ [],
    /- 38 -/ [("assign_expression", 6), ("for_statement", 7), ("id_ref", 14), ("if_statement", 9), ("matrix_ref", 20), ("print_statement", 5), ("statement", 21), ("tab_ref", 19), ("while_statement", 8)],
    /- 39 -/ [],
    /- 40 -/ [],
    /- 41 -/ [],
    /- 42 -/ [],
    /- 43 -/ [],
    /- 44 -/ [("assign_expression", 29), ("expression", 86), ("id_ref", 14), ("matrix_funcs", 27), ("matrix_ref", 26), ("relation_expression", 28), ("tab_ref", 19), ("value", 30)],
    /- 45 -/ [("assign_expression", 29), ("expression", 87), ("id_ref", 14), ("matrix_funcs", 27), ("matrix_ref", 26), ("relation_expression", 28), ("tab_ref", 19), ("value", 30)],
    /- 46 -/ [("assign_expression", 29), ("expression", 88), ("id_ref", 14), ("matrix_funcs", 27), ("matrix_ref", 26), ("relation_expression", 28), ("tab_ref", 19), ("value", 30)],
    /- 47 -/ [("assign_expression", 29), ("expression", 89), ("id_ref", 14), ("matrix_funcs", 27), ("matrix_ref", 26), ("relation_expression", 28), ("tab_ref", 19), ("value", 30)],
    /- 48 -/ [("assign_expression", 29), ("expression", 90), ("id_ref", 14), ("matrix_funcs", 27), ("matrix_ref", 26), ("relation_expression", 28), ("tab_ref", 19), ("value", 30)],
    /- 49 -/ [],
    /- 50 -/ [("id_int", 93)],
    /- 51 -/ [("assign_expression", 29), ("expression", 97), ("id_ref", 14), ("matrix_funcs", 27), ("matrix_ref", 26), ("relation_expression", 96), ("tab_ref", 19), ("value", 30)],
    /- 52 -/ [("assign_expression", 29), ("expression", 97), ("id_ref", 14), ("matrix_funcs", 27), ("matrix_ref", 26), ("relation_expression", 98), ("tab_ref", 19), ("value", 30)],
    /- 53 -/ [],
    /- 54 -/ [("assign_expression", 29), ("expression", 99), ("id_ref", 14), ("matrix_funcs", 27), ("matrix_ref", 26), ("relation_expression", 28), ("tab_ref", 19), ("value", 30)],
    /- 55 -/ [("assign_expression", 29), ("expression", 100), ("id_ref", 14), ("matrix_funcs", 27), ("matrix_ref", 26), ("relation_expression", 28), ("tab_ref", 19), ("value", 30)],
    /- 56 -/ [("assign_expression", 29), ("expression", 101), ("id_ref", 14), ("matrix_funcs", 27), ("matrix_ref", 26), ("relation_expression", 28), ("tab_ref", 19), ("value", 30)],
    /- 57 -/ [("assign_expression", 29), ("expression", 102), ("id_ref", 14), ("matrix_funcs", 27), ("matrix_ref", 26), ("relation_expression", 28), ("tab_ref", 19), ("value", 30)],
    /- 58 -/ [("assign_expression", 29), ("expression", 103), ("id_ref", 14), ("matrix_funcs", 27), ("matrix_ref", 26), ("relation_expression", 28), ("tab_ref", 19), ("value", 30)],
    /- 59 -/ [("assign_expression", 29), ("expression", 104), ("id_ref", 14), ("matrix_funcs", 27), ("matrix_ref", 26), ("relation_expression", 28), ("tab_ref", 19), ("value", 30)],
    /- 60 -/ [("assign_expression", 29), ("expression", 105), ("id_ref", 14), ("matrix_funcs", 27), ("matrix_ref", 26), ("relation_expression", 28), ("tab_ref", 19), ("value", 30)],
    /- 61 -/ [("assign_expression", 29), ("expression", 106), ("id_ref", 14), ("matrix_funcs", 27), ("matrix_ref", 26), ("relation_expression", 28), ("tab_ref", 19), ("value", 30)],
    /- 62 -/ [],
    /- 63 -/ [("assign_expression", 29), ("expression", 107), ("id_ref", 14), ("matrix_funcs", 27), ("matrix_ref", 26), ("relation_expression", 28), ("tab_ref", 19), ("value", 30)],
    /- 64 -/ [("assign_expression", 29), ("expression", 108), ("id_ref", 14), ("matrix_funcs", 27), ("matrix_ref", 26), ("relation_expression", 28), ("tab_ref", 19), ("value", 30)],
    /- 65 -/ [("assign_expression", 29), ("expression", 109), ("id_ref", 14), ("matrix_funcs", 27), ("matrix_ref", 26), ("relation_expression", 28), ("tab_ref", 19), ("value", 30)],
    /- 66 -/ [("assign_expression", 29), ("expression", 110), ("id_ref", 14), ("matrix_funcs", 27), ("matrix_ref", 26), ("relation_expression", 28), ("tab_ref", 19), ("value", 30)],
    /- 67 -/ [("assign_expression", 29), ("expression", 111), ("id_ref", 14), ("matrix_funcs", 27), ("matrix_ref", 26), ("relation_expression", 28), ("tab_ref", 19), ("value", 30)],
    /- 68 -/ [("assign_expression", 29), ("expression", 112), ("id_ref", 14), ("matrix_funcs", 27), ("matrix_ref", 26), ("relation_expression", 28), ("tab_ref", 19), ("value", 30)],
    /- 69 -/ [],
    /- 70 -/ [],
    /- 71 -/ [("line_of_num", 114)],
    /- 72 -/ [],
    /- 73 -/ [],
    /- 74 -/ [],
    /- 75 -/ [("id_int", 119)],
    /- 76 -/ [],
    /- 77 -/ [],
    /- 78 -/ [],
    /- 79 -/ [],
    /- 80 -/ [],
    /- 81 -/ [("assign_expression", 29), ("expression", 43), ("id_ref", 14), ("matrix_funcs", 27), ("matrix_ref", 26), ("print_expr", 123), ("relation_expression", 28), ("tab_ref", 19), ("value", 30)],
    /- 82 -/ [("assign_expression", 29), ("expression", 124), ("id_ref", 14), ("matrix_funcs", 27), ("matrix_ref", 26), ("relation_expression", 28), ("tab_ref", 19), ("value", 30)],
    /- 83 -/ [("assign_expression", 29), ("expression", 125), ("id_ref", 14), ("matrix_funcs", 27), ("matrix_ref", 26), ("relation_expression", 28), ("tab_ref", 19), ("value", 30)],
    /- 84 -/ [("assign_expression", 29), ("expression", 126), ("id_ref", 14), ("matrix_funcs", 27), ("matrix_ref", 26), ("relation_expression", 28), ("tab_ref", 19), ("value", 30)],
    /- 85 -/ [("assign_expression", 29), ("expression", 127), ("id_ref", 14), ("matrix_funcs", 27), ("matrix_ref", 26), ("relation_expression", 28), ("tab_ref", 19), ("value", 30)],
    /- 86 -/ [],
    /- 87 -/ [],
    /- 88 -/ [],
    /- 89 -/ [],
    /- 90 -/ [],
    /- 91 -/ [("id_int", 133)],
    /- 92 -/ [],
    /- 93 -/ [],
    /- 94 -/ [("id_int", 137)],
    /- 95 -/ [],
    /- 96 -/ [],
    /- 97 -/ [],
    /- 98 -/ [],
    /- 99 -/ [],
    /- 100 -/ [],
    /- 101 -/ [],
    /- 102 -/ [],
    /- 103 -/ [],
    /- 104 -/ [],
    /- 105 -/ [],
    /- 106 -/ [],
    /- 107 -/ [],
    /- 108 -/ [],
    /- 109 -/ [],
    /- 110 -/ [],
    /- 111 -/ [],
    /- 112 -/ [],
    /- 113 -/ [],
    /- 114 -/ [],
    /- 115 -/ [],
    /- 116 -/ [],
    /- 117 -/ [],
    /- 118 -/ [],
    /- 119 -/ [],
    /- 120 -/ [],
    /- 121 -/ [],
    /- 122 -/ [],
    /- 123 -/ [],
    /- 124 -/ [],
    /- 125 -/ [],
    /- 126 -/ [],
    /- 127 -/ [],
    /- 128 -/ [],
    /- 129 -/ [],
    /- 130 -/ [],
    /- 131 -/ [],
    /- 132 -/ [],
    /- 133 -/ [],
    /- 134 -/ [("id_int", 147)],
    /- 135 -/ [],
    /- 136 -/ [("id_int", 149)],
    /- 137 -/ [],
    /- 138 -/ [("assign_expression", 6), ("for_statement", 7), ("id_ref", 14), ("if_statement", 9), ("matrix_ref", 20), ("print_statement", 5), ("statement", 151), ("tab_ref", 19), ("while_statement", 8)],
    /- 139 -/ [("assign_expression", 6), ("for_statement", 7), ("id_ref", 14), ("if_statement", 9), ("matrix_ref", 20), ("print_statement", 5), ("statement", 152), ("tab_ref", 19), ("while_statement", 8)],
    /- 140 -/ [],
    /- 141 -/ [],
    /- 142 -/ [("line_of_num", 153)],
    /- 143 -/ [],
    /- 144 -/ [],
    /- 145 -/ [],
    /- 146 -/ [("assign_expression", 29), ("expression", 157), ("id_ref", 14), ("int_expr", 155), ("matrix_funcs", 27), ("matrix_ref", 26), ("relation_expression", 28), ("tab_ref", 19), ("value", 30)],
    /- 147 -/ [],
    /- 148 -/ [],
    /- 149 -/ [],
    /- 150 -/ [],
    /- 151 -/ [],
    /- 152 -/ [],
    /- 153 -/ [],
    /- 154 -/ [],
    /- 155 -/ [("assign_expression", 6), ("for_statement", 7), ("id_ref", 14), ("if_statement", 9), ("matrix_ref", 20), ("print_statement", 5), ("statement", 162), ("tab_ref", 19), ("while_statement", 8)],
    /- 156 -/ [],
    /- 157 -/ [],
    /- 158 -/ [],
    /- 159 -/ [],
    /- 160 -/ [("assign_expression", 6), ("for_statement", 7), ("id_ref", 14), ("if_statement", 9), ("matrix_ref", 20), ("print_statement", 5), ("statement", 167), ("tab_ref", 19), ("while_statement", 8)],
    /- 161 -/ [],
    /- 162 -/ [],
    /- 163 -/ [("assign_expression", 29), ("expression", 168), ("id_ref", 14), ("matrix_funcs", 27), ("matrix_ref", 26), ("relation_expression", 28), ("tab_ref", 19), ("value", 30)],
    /- 164 -/ [("assign_expression", 29), ("expression", 169), ("id_ref", 14), ("matrix_funcs", 27), ("matrix_ref", 26), ("relation_expression", 28), ("tab_ref", 19), ("value", 30)],
    /- 165 -/ [("assign_expression", 29), ("expression", 170), ("id_ref", 14), ("matrix_funcs", 27), ("matrix_ref", 26), ("relation_expression", 28), ("tab_ref", 19), ("value", 30)],
    /- 166 -/ [("assign_expression", 29), ("expression", 171), ("id_ref", 14), ("matrix_funcs", 27), ("matrix_ref", 26), ("relation_expression", 28), ("tab_ref", 19), ("value", 30)],
    /- 167 -/ [],
    /- 168 -/ [],
    /- 169 -/ [],
    /- 170 -/ [],
    /- 171 -/ []]

end MatrixLang.Script
