import MatrixLang.Grammar.Table

/-!
# The parse table of version 2

The LALR(1) table of the version 2 grammar (`Recognizer.grammar`), with its conflicts settled by the
grammar's precedence levels, as the parser generator builds it. States are numbered in the order
the generator finds them, from the start state `0`; a reduction names its production by the
numbering of `Grammar.numbered`. Each state has one row of actions, by terminal, and one row of
moves, by nonterminal.
-/
namespace MatrixLang.Recognizer

/-- The parse table of version 2. -/
def table : Grammar.Table where
  actions := #[
    /- 0 -/ [("BREAK", .shift 5), ("CONTINUE", .shift 4), ("FOR", .shift 9), ("ID", .shift 10), ("IF", .shift 12), ("PRINT", .shift 8), ("RETURN", .shift 3), ("WHILE", .shift 11), ("\x7b", .shift 6)],
    /- 1 -/ [("$end", .accept), ("BREAK", .shift 5), ("CONTINUE", .shift 4), ("FOR", .shift 9), ("ID", .shift 10), ("IF", .shift 12), ("PRINT", .shift 8), ("RETURN", .shift 3), ("WHILE", .shift 11), ("\x7b", .shift 6)],
    /- 2 -/ [("$end", .reduce 1), ("BREAK", .reduce 1), ("CONTINUE", .reduce 1), ("FOR", .reduce 1), ("ID", .reduce 1), ("IF", .reduce 1), ("PRINT", .reduce 1), ("RETURN", .reduce 1), ("WHILE", .reduce 1), ("\x7b", .reduce 1), ("\x7d", .reduce 1)],
    /- 3 -/ [("(", .shift 23), ("-", .shift 24), ("EYE", .shift 25), ("FLOATNUM", .shift 20), ("ID", .shift 22), ("INTNUM", .shift 21), ("ONES", .shift 26), ("STRING", .shift 19), ("ZEROS", .shift 27), ("[", .shift 16)],
    /- 4 -/ [(";", .shift 28)],
    /- 5 -/ [(";", .shift 29)],
    /- 6 -/ [("BREAK", .shift 5), ("CONTINUE", .shift 4), ("FOR", .shift 9), ("ID", .shift 10), ("IF", .shift 12), ("PRINT", .shift 8), ("RETURN", .shift 3), ("WHILE", .shift 11), ("\x7b", .shift 6)],
    /- 7 -/ [("$end", .reduce 7), ("BREAK", .reduce 7), ("CONTINUE", .reduce 7), ("ELSE", .reduce 7), ("FOR", .reduce 7), ("ID", .reduce 7), ("IF", .reduce 7), ("PRINT", .reduce 7), ("RETURN", .reduce 7), ("WHILE", .reduce 7), ("\x7b", .reduce 7), ("\x7d", .reduce 7)],
    /- 8 -/ [("(", .shift 23), ("-", .shift 24), ("EYE", .shift 25), ("FLOATNUM", .shift 20), ("ID", .shift 22), ("INTNUM", .shift 21), ("ONES", .shift 26), ("STRING", .shift 19), ("ZEROS", .shift 27), ("[", .shift 16)],
    /- 9 -/ [("ID", .shift 33)],
    /- 10 -/ [("=", .reduce 56), ("ADDASSIGN", .reduce 56), ("DIVASSIGN", .reduce 56), ("MULASSIGN", .reduce 56), ("SUBASSIGN", .reduce 56), ("[", .shift 34)],
    /- 11 -/ [("(", .shift 35)],
    /- 12 -/ [("(", .shift 36)],
    /- 13 -/ [("=", .shift 41), ("ADDASSIGN", .shift 40), ("DIVASSIGN", .shift 37), ("MULASSIGN", .shift 38), ("SUBASSIGN", .shift 39)],
    /- 14 -/ [("$end", .reduce 2), ("BREAK", .reduce 2), ("CONTINUE", .reduce 2), ("FOR", .reduce 2), ("ID", .reduce 2), ("IF", .reduce 2), ("PRINT", .reduce 2), ("RETURN", .reduce 2), ("WHILE", .reduce 2), ("\x7b", .reduce 2), ("\x7d", .reduce 2)],
    /- 15 -/ [("'", .shift 43), ("*", .shift 49), ("+", .shift 51), ("-", .shift 50), ("/", .shift 48), (";", .shift 42), ("DOTADD", .shift 47), ("DOTDIV", .shift 44), ("DOTMUL", .shift 45), ("DOTSUB", .shift 46)],
    /- 16 -/ [("[", .shift 52)],
    /- 17 -/ [("'", .reduce 22), (")", .reduce 22), ("*", .reduce 22), ("+", .reduce 22), (",", .reduce 22), ("-", .reduce 22), ("/", .reduce 22), (":", .reduce 22), (";", .reduce 22), ("BREAK", .reduce 22), ("CONTINUE", .reduce 22), ("DOTADD", .reduce 22), ("DOTDIV", .reduce 22), ("DOTMUL", .reduce 22), ("DOTSUB", .reduce 22), ("EQ", .reduce 22), ("FOR", .reduce 22), ("GE", .reduce 22), ("GT", .reduce 22), ("ID", .reduce 22), ("IF", .reduce 22), ("LE", .reduce 22), ("LT", .reduce 22), ("NE", .reduce 22), ("PRINT", .reduce 22), ("RETURN", .reduce 22), ("WHILE", .reduce 22), ("]", .reduce 22), ("\x7b", .reduce 22)],
    /- 18 -/ [("'", .reduce 23), (")", .reduce 23), ("*", .reduce 23), ("+", .reduce 23), (",", .reduce 23), ("-", .reduce 23), ("/", .reduce 23), (":", .reduce 23), (";", .reduce 23), ("BREAK", .reduce 23), ("CONTINUE", .reduce 23), ("DOTADD", .reduce 23), ("DOTDIV", .reduce 23), ("DOTMUL", .reduce 23), ("DOTSUB", .reduce 23), ("EQ", .reduce 23), ("FOR", .reduce 23), ("GE", .reduce 23), ("GT", .reduce 23), ("ID", .reduce 23), ("IF", .reduce 23), ("LE", .reduce 23), ("LT", .reduce 23), ("NE", .reduce 23), ("PRINT", .reduce 23), ("RETURN", .reduce 23), ("WHILE", .reduce 23), ("]", .reduce 23), ("\x7b", .reduce 23)],
    /- 19 -/ [("'", .reduce 24), (")", .reduce 24), ("*", .reduce 24), ("+", .reduce 24), (",", .reduce 24), ("-", .reduce 24), ("/", .reduce 24), (":", .reduce 24), (";", .reduce 24), ("BREAK", .reduce 24), ("CONTINUE", .reduce 24), ("DOTADD", .reduce 24), ("DOTDIV", .reduce 24), ("DOTMUL", .reduce 24), ("DOTSUB", .reduce 24), ("EQ", .reduce 24), ("FOR", .reduce 24), ("GE", .reduce 24), ("GT", .reduce 24), ("ID", .reduce 24), ("IF", .reduce 24), ("LE", .reduce 24), ("LT", .reduce 24), ("NE", .reduce 24), ("PRINT", .reduce 24), ("RETURN", .reduce 24), ("WHILE", .reduce 24), ("]", .reduce 24), ("\x7b", .reduce 24)],
    /- 20 -/ [("'", .reduce 25), (")", .reduce 25), ("*", .reduce 25), ("+", .reduce 25), (",", .reduce 25), ("-", .reduce 25), ("/", .reduce 25), (":", .reduce 25), (";", .reduce 25), ("BREAK", .reduce 25), ("CONTINUE", .reduce 25), ("DOTADD", .reduce 25), ("DOTDIV", .reduce 25), ("DOTMUL", .reduce 25), ("DOTSUB", .reduce 25), ("EQ", .reduce 25), ("FOR", .reduce 25), ("GE", .reduce 25), ("GT", .reduce 25), ("ID", .reduce 25), ("IF", .reduce 25), ("LE", .reduce 25), ("LT", .reduce 25), ("NE", .reduce 25), ("PRINT", .reduce 25), ("RETURN", .reduce 25), ("WHILE", .reduce 25), ("]", .reduce 25), ("\x7b", .reduce 25)],
    /- 21 -/ [("'", .reduce 26), (")", .reduce 26), ("*", .reduce 26), ("+", .reduce 26), (",", .reduce 26), ("-", .reduce 26), ("/", .reduce 26), (":", .reduce 26), (";", .reduce 26), ("BREAK", .reduce 26), ("CONTINUE", .reduce 26), ("DOTADD", .reduce 26), ("DOTDIV", .reduce 26), ("DOTMUL", .reduce 26), ("DOTSUB", .reduce 26), ("EQ", .reduce 26), ("FOR", .reduce 26), ("GE", .reduce 26), ("GT", .reduce 26), ("ID", .reduce 26), ("IF", .reduce 26), ("LE", .reduce 26), ("LT", .reduce 26), ("NE", .reduce 26), ("PRINT", .reduce 26), ("RETURN", .reduce 26), ("WHILE", .reduce 26), ("]", .reduce 26), ("\x7b", .reduce 26)],
    /- 22 -/ [("'", .reduce 27), (")", .reduce 27), ("*", .reduce 27), ("+", .reduce 27), (",", .reduce 27), ("-", .reduce 27), ("/", .reduce 27), (":", .reduce 27), (";", .reduce 27), ("BREAK", .reduce 27), ("CONTINUE", .reduce 27), ("DOTADD", .reduce 27), ("DOTDIV", .reduce 27), ("DOTMUL", .reduce 27), ("DOTSUB", .reduce 27), ("EQ", .reduce 27), ("FOR", .reduce 27), ("GE", .reduce 27), ("GT", .reduce 27), ("ID", .reduce 27), ("IF", .reduce 27), ("LE", .reduce 27), ("LT", .reduce 27), ("NE", .reduce 27), ("PRINT", .reduce 27), ("RETURN", .reduce 27), ("WHILE", .reduce 27), ("[", .shift 54), ("]", .reduce 27), ("\x7b", .reduce 27)],
    /- 23 -/ [("(", .shift 23), ("-", .shift 24), ("EYE", .shift 25), ("FLOATNUM", .shift 20), ("ID", .shift 22), ("INTNUM", .shift 21), ("ONES", .shift 26), ("STRING", .shift 19), ("ZEROS", .shift 27), ("[", .shift 16)],
    /- 24 -/ [("(", .shift 23), ("-", .shift 24), ("EYE", .shift 25), ("FLOATNUM", .shift 20), ("ID", .shift 22), ("INTNUM", .shift 21), ("ONES", .shift 26), ("STRING", .shift 19), ("ZEROS", .shift 27), ("[", .shift 16)],
    /- 25 -/ [("(", .shift 57)],
    /- 26 -/ [("(", .shift 58)],
    /- 27 -/ [("(", .shift 59)],
    /- 28 -/ [("$end", .reduce 4), ("BREAK", .reduce 4), ("CONTINUE", .reduce 4), ("ELSE", .reduce 4), ("FOR", .reduce 4), ("ID", .reduce 4), ("IF", .reduce 4), ("PRINT", .reduce 4), ("RETURN", .reduce 4), ("WHILE", .reduce 4), ("\x7b", .reduce 4), ("\x7d", .reduce 4)],
    /- 29 -/ [("$end", .reduce 5), ("BREAK", .reduce 5), ("CONTINUE", .reduce 5), ("ELSE", .reduce 5), ("FOR", .reduce 5), ("ID", .reduce 5), ("IF", .reduce 5), ("PRINT", .reduce 5), ("RETURN", .reduce 5), ("WHILE", .reduce 5), ("\x7b", .reduce 5), ("\x7d", .reduce 5)],
    /- 30 -/ [("BREAK", .shift 5), ("CONTINUE", .shift 4), ("FOR", .shift 9), ("ID", .shift 10), ("IF", .shift 12), ("PRINT", .shift 8), ("RETURN", .shift 3), ("WHILE", .shift 11), ("\x7b", .shift 6), ("\x7d", .shift 60)],
    /- 31 -/ [(",", .shift 62), (";", .shift 61)],
    /- 32 -/ [("'", .shift 43), ("*", .shift 49), ("+", .shift 51), (",", .reduce 15), ("-", .shift 50), ("/", .shift 48), (";", .reduce 15), ("DOTADD", .shift 47), ("DOTDIV", .shift 44), ("DOTMUL", .shift 45), ("DOTSUB", .shift 46)],
    /- 33 -/ [("=", .shift 63)],
    /- 34 -/ [("(", .shift 23), ("-", .shift 24), ("EYE", .shift 25), ("FLOATNUM", .shift 20), ("ID", .shift 22), ("INTNUM", .shift 21), ("ONES", .shift 26), ("STRING", .shift 19), ("ZEROS", .shift 27), ("[", .shift 16)],
    /- 35 -/ [("(", .shift 23), ("-", .shift 24), ("EYE", .shift 25), ("FLOATNUM", .shift 20), ("ID", .shift 22), ("INTNUM", .shift 21), ("ONES", .shift 26), ("STRING", .shift 19), ("ZEROS", .shift 27), ("[", .shift 16)],
    /- 36 -/ [("(", .shift 23), ("-", .shift 24), ("EYE", .shift 25), ("FLOATNUM", .shift 20), ("ID", .shift 22), ("INTNUM", .shift 21), ("ONES", .shift 26), ("STRING", .shift 19), ("ZEROS", .shift 27), ("[", .shift 16)],
    /- 37 -/ [("(", .shift 23), ("-", .shift 24), ("EYE", .shift 25), ("FLOATNUM", .shift 20), ("ID", .shift 22), ("INTNUM", .shift 21), ("ONES", .shift 26), ("STRING", .shift 19), ("ZEROS", .shift 27), ("[", .shift 16)],
    /- 38 -/ [("(", .shift 23), ("-", .shift 24), ("EYE", .shift 25), ("FLOATNUM", .shift 20), ("ID", .shift 22), ("INTNUM", .shift 21), ("ONES", .shift 26), ("STRING", .shift 19), ("ZEROS", .shift 27), ("[", .shift 16)],
    /- 39 -/ [("(", .shift 23), ("-", .shift 24), ("EYE", .shift 25), ("FLOATNUM", .shift 20), ("ID", .shift 22), ("INTNUM", .shift 21), ("ONES", .shift 26), ("STRING", .shift 19), ("ZEROS", .shift 27), ("[", .shift 16)],
    /- 40 -/ [("(", .shift 23), ("-", .shift 24), ("EYE", .shift 25), ("FLOATNUM", .shift 20), ("ID", .shift 22), ("INTNUM", .shift 21), ("ONES", .shift 26), ("STRING", .shift 19), ("ZEROS", .shift 27), ("[", .shift 16)],
    /- 41 -/ [("(", .shift 23), ("-", .shift 24), ("EYE", .shift 25), ("FLOATNUM", .shift 20), ("ID", .shift 22), ("INTNUM", .shift 21), ("ONES", .shift 26), ("STRING", .shift 19), ("ZEROS", .shift 27), ("[", .shift 16)],
    /- 42 -/ [("$end", .reduce 3), ("BREAK", .reduce 3), ("CONTINUE", .reduce 3), ("ELSE", .reduce 3), ("FOR", .reduce 3), ("ID", .reduce 3), ("IF", .reduce 3), ("PRINT", .reduce 3), ("RETURN", .reduce 3), ("WHILE", .reduce 3), ("\x7b", .reduce 3), ("\x7d", .reduce 3)],
    /- 43 -/ [("'", .reduce 30), (")", .reduce 30), ("*", .reduce 30), ("+", .reduce 30), (",", .reduce 30), ("-", .reduce 30), ("/", .reduce 30), (":", .reduce 30), (";", .reduce 30), ("BREAK", .reduce 30), ("CONTINUE", .reduce 30), ("DOTADD", .reduce 30), ("DOTDIV", .reduce 30), ("DOTMUL", .reduce 30), ("DOTSUB", .reduce 30), ("EQ", .reduce 30), ("FOR", .reduce 30), ("GE", .reduce 30), ("GT", .reduce 30), ("ID", .reduce 30), ("IF", .reduce 30), ("LE", .reduce 30), ("LT", .reduce 30), ("NE", .reduce 30), ("PRINT", .reduce 30), ("RETURN", .reduce 30), ("WHILE", .reduce 30), ("]", .reduce 30), ("\x7b", .reduce 30)],
    /- 44 -/ [("(", .shift 23), ("-", .shift 24), ("EYE", .shift 25), ("FLOATNUM", .shift 20), ("ID", .shift 22), ("INTNUM", .shift 21), ("ONES", .shift 26), ("STRING", .shift 19), ("ZEROS", .shift 27), ("[", .shift 16)],
    /- 45 -/ [("(", .shift 23), ("-", .shift 24), ("EYE", .shift 25), ("FLOATNUM", .shift 20), ("ID", .shift 22), ("INTNUM", .shift 21), ("ONES", .shift 26), ("STRING", .shift 19), ("ZEROS", .shift 27), ("[", .shift 16)],
    /- 46 -/ [("(", .shift 23), ("-", .shift 24), ("EYE", .shift 25), ("FLOATNUM", .shift 20), ("ID", .shift 22), ("INTNUM", .shift 21), ("ONES", .shift 26), ("STRING", .shift 19), ("ZEROS", .shift 27), ("[", .shift 16)],
    /- 47 -/ [("(", .shift 23), ("-", .shift 24), ("EYE", .shift 25), ("FLOATNUM", .shift 20), ("ID", .shift 22), ("INTNUM", .shift 21), ("ONES", .shift 26), ("STRING", .shift 19), ("ZEROS", .shift 27), ("[", .shift 16)],
    /- 48 -/ [("(", .shift 23), ("-", .shift 24), ("EYE", .shift 25), ("FLOATNUM", .shift 20), ("ID", .shift 22), ("INTNUM", .shift 21), ("ONES", .shift 26), ("STRING", .shift 19), ("ZEROS", .shift 27), ("[", .shift 16)],
    /- 49 -/ [("(", .shift 23), ("-", .shift 24), ("EYE", .shift 25), ("FLOATNUM", .shift 20), ("ID", .shift 22), ("INTNUM", .shift 21), ("ONES", .shift 26), ("STRING", .shift 19), ("ZEROS", .shift 27), ("[", .shift 16)],
    /- 50 -/ [("(", .shift 23), ("-", .shift 24), ("EYE", .shift 25), ("FLOATNUM", .shift 20), ("ID", .shift 22), ("INTNUM", .shift 21), ("ONES", .shift 26), ("STRING", .shift 19), ("ZEROS", .shift 27), ("[", .shift 16)],
    /- 51 -/ [("(", .shift 23), ("-", .shift 24), ("EYE", .shift 25), ("FLOATNUM", .shift 20), ("ID", .shift 22), ("INTNUM", .shift 21), ("ONES", .shift 26), ("STRING", .shift 19), ("ZEROS", .shift 27), ("[", .shift 16)],
    /- 52 -/ [("(", .shift 23), ("-", .shift 24), ("EYE", .shift 25), ("FLOATNUM", .shift 20), ("ID", .shift 22), ("INTNUM", .shift 21), ("ONES", .shift 26), ("STRING", .shift 19), ("ZEROS", .shift 27), ("[", .shift 16)],
    /- 53 -/ [(",", .shift 85), ("]", .shift 84)],
    /- 54 -/ [("(", .shift 23), ("-", .shift 24), ("EYE", .shift 25), ("FLOATNUM", .shift 20), ("ID", .shift 22), ("INTNUM", .shift 21), ("ONES", .shift 26), ("STRING", .shift 19), ("ZEROS", .shift 27), ("[", .shift 16)],
    /- 55 -/ [("'", .shift 43), (")", .shift 87), ("*", .shift 49), ("+", .shift 51), ("-", .shift 50), ("/", .shift 48), ("DOTADD", .shift 47), ("DOTDIV", .shift 44), ("DOTMUL", .shift 45), ("DOTSUB", .shift 46)],
    /- 56 -/ [("'", .reduce 29), (")", .reduce 29), ("*", .reduce 29), ("+", .reduce 29), (",", .reduce 29), ("-", .reduce 29), ("/", .reduce 29), (":", .reduce 29), (";", .reduce 29), ("BREAK", .reduce 29), ("CONTINUE", .reduce 29), ("DOTADD", .reduce 29), ("DOTDIV", .reduce 29), ("DOTMUL", .reduce 29), ("DOTSUB", .reduce 29), ("EQ", .reduce 29), ("FOR", .reduce 29), ("GE", .reduce 29), ("GT", .reduce 29), ("ID", .reduce 29), ("IF", .reduce 29), ("LE", .reduce 29), ("LT", .reduce 29), ("NE", .reduce 29), ("PRINT", .reduce 29), ("RETURN", .reduce 29), ("WHILE", .reduce 29), ("]", .reduce 29), ("\x7b", .reduce 29)],
    /- 57 -/ [("INTNUM", .shift 88)],
    /- 58 -/ [("INTNUM", .shift 89)],
    /- 59 -/ [("INTNUM", .shift 90)],
    /- 60 -/ [("$end", .reduce 6), ("BREAK", .reduce 6), ("CONTINUE", .reduce 6), ("ELSE", .reduce 6), ("FOR", .reduce 6), ("ID", .reduce 6), ("IF", .reduce 6), ("PRINT", .reduce 6), ("RETURN", .reduce 6), ("WHILE", .reduce 6), ("\x7b", .reduce 6), ("\x7d", .reduce 6)],
    /- 61 -/ [("$end", .reduce 8), ("BREAK", .reduce 8), ("CONTINUE", .reduce 8), ("ELSE", .reduce 8), ("FOR", .reduce 8), ("ID", .reduce 8), ("IF", .reduce 8), ("PRINT", .reduce 8), ("RETURN", .reduce 8), ("WHILE", .reduce 8), ("\x7b", .reduce 8), ("\x7d", .reduce 8)],
    /- 62 -/ [("(", .shift 23), ("-", .shift 24), ("EYE", .shift 25), ("FLOATNUM", .shift 20), ("ID", .shift 22), ("INTNUM", .shift 21), ("ONES", .shift 26), ("STRING", .shift 19), ("ZEROS", .shift 27), ("[", .shift 16)],
    /- 63 -/ [("(", .shift 23), ("-", .shift 24), ("EYE", .shift 25), ("FLOATNUM", .shift 20), ("ID", .shift 22), ("INTNUM", .shift 21), ("ONES", .shift 26), ("STRING", .shift 19), ("ZEROS", .shift 27), ("[", .shift 16)],
    /- 64 -/ [(",", .shift 95), ("]", .shift 94)],
    /- 65 -/ [("'", .shift 43), ("*", .shift 49), ("+", .shift 51), (",", .reduce 48), ("-", .shift 50), ("/", .shift 48), ("DOTADD", .shift 47), ("DOTDIV", .shift 44), ("DOTMUL", .shift 45), ("DOTSUB", .shift 46), ("]", .reduce 48)],
    /- 66 -/ [(")", .shift 96)],
    /- 67 -/ [("'", .shift 43), ("*", .shift 49), ("+", .shift 51), ("-", .shift 50), ("/", .shift 48), ("DOTADD", .shift 47), ("DOTDIV", .shift 44), ("DOTMUL", .shift 45), ("DOTSUB", .shift 46), ("EQ", .shift 98), ("GE", .shift 100), ("GT", .shift 99), ("LE", .shift 102), ("LT", .shift 101), ("NE", .shift 97)],
    /- 68 -/ [(")", .shift 103)],
    /- 69 -/ [("'", .shift 43), ("*", .shift 49), ("+", .shift 51), ("-", .shift 50), ("/", .shift 48), (";", .shift 104), ("DOTADD", .shift 47), ("DOTDIV", .shift 44), ("DOTMUL", .shift 45), ("DOTSUB", .shift 46)],
    /- 70 -/ [("'", .shift 43), ("*", .shift 49), ("+", .shift 51), ("-", .shift 50), ("/", .shift 48), (";", .shift 105), ("DOTADD", .shift 47), ("DOTDIV", .shift 44), ("DOTMUL", .shift 45), ("DOTSUB", .shift 46)],
    /- 71 -/ [("'", .shift 43), ("*", .shift 49), ("+", .shift 51), ("-", .shift 50), ("/", .shift 48), (";", .shift 106), ("DOTADD", .shift 47), ("DOTDIV", .shift 44), ("DOTMUL", .shift 45), ("DOTSUB", .shift 46)],
    /- 72 -/ [("'", .shift 43), ("*", .shift 49), ("+", .shift 51), ("-", .shift 50), ("/", .shift 48), (";", .shift 107), ("DOTADD", .shift 47), ("DOTDIV", .shift 44), ("DOTMUL", .shift 45), ("DOTSUB", .shift 46)],
    /- 73 -/ [("'", .shift 43), ("*", .shift 49), ("+", .shift 51), ("-", .shift 50), ("/", .shift 48), (";", .shift 108), ("DOTADD", .shift 47), ("DOTDIV", .shift 44), ("DOTMUL", .shift 45), ("DOTSUB", .shift 46)],
    /- 74 -/ [("'", .reduce 31), (")", .reduce 31), ("*", .reduce 31), ("+", .reduce 31), (",", .reduce 31), ("-", .reduce 31), ("/", .reduce 31), (":", .reduce 31), (";", .reduce 31), ("BREAK", .reduce 31), ("CONTINUE", .reduce 31), ("DOTADD", .reduce 31), ("DOTDIV", .reduce 31), ("DOTMUL", .reduce 31), ("DOTSUB", .reduce 31), ("EQ", .reduce 31), ("FOR", .reduce 31), ("GE", .reduce 31), ("GT", .reduce 31), ("ID", .reduce 31), ("IF", .reduce 31), ("LE", .reduce 31), ("LT", .reduce 31), ("NE", .reduce 31), ("PRINT", .reduce 31), ("RETURN", .reduce 31), ("WHILE", .reduce 31), ("]", .reduce 31), ("\x7b", .reduce 31)],
    /- 75 -/ [("'", .reduce 32), (")", .reduce 32), ("*", .reduce 32), ("+", .reduce 32), (",", .reduce 32), ("-", .reduce 32), ("/", .reduce 32), (":", .reduce 32), (";", .reduce 32), ("BREAK", .reduce 32), ("CONTINUE", .reduce 32), ("DOTADD", .reduce 32), ("DOTDIV", .reduce 32), ("DOTMUL", .reduce 32), ("DOTSUB", .reduce 32), ("EQ", .reduce 32), ("FOR", .reduce 32), ("GE", .reduce 32), ("GT", .reduce 32), ("ID", .reduce 32), ("IF", .reduce 32), ("LE", .reduce 32), ("LT", .reduce 32), ("NE", .reduce 32), ("PRINT", .reduce 32), ("RETURN", .reduce 32), ("WHILE", .reduce 32), ("]", .reduce 32), ("\x7b", .reduce 32)],
    /- 76 -/ [("'", .reduce 33), (")", .reduce 33), ("*", .shift 49), ("+", .reduce 33), (",", .reduce 33), ("-", .reduce 33), ("/", .shift 48), (":", .reduce 33), (";", .reduce 33), ("BREAK", .reduce 33), ("CONTINUE", .reduce 33), ("DOTADD", .reduce 33), ("DOTDIV", .shift 44), ("DOTMUL", .shift 45), ("DOTSUB", .reduce 33), ("EQ", .reduce 33), ("FOR", .reduce 33), ("GE", .reduce 33), ("GT", .reduce 33), ("ID", .reduce 33), ("IF", .reduce 33), ("LE", .reduce 33), ("LT", .reduce 33), ("NE", .reduce 33), ("PRINT", .reduce 33), ("RETURN", .reduce 33), ("WHILE", .reduce 33), ("]", .reduce 33), ("\x7b", .reduce 33)],
    /- 77 -/ [("'", .reduce 34), (")", .reduce 34), ("*", .shift 49), ("+", .reduce 34), (",", .reduce 34), ("-", .reduce 34), ("/", .shift 48), (":", .reduce 34), (";", .reduce 34), ("BREAK", .reduce 34), ("CONTINUE", .reduce 34), ("DOTADD", .reduce 34), ("DOTDIV", .shift 44), ("DOTMUL", .shift 45), ("DOTSUB", .reduce 34), ("EQ", .reduce 34), ("FOR", .reduce 34), ("GE", .reduce 34), ("GT", .reduce 34), ("ID", .reduce 34), ("IF", .reduce 34), ("LE", .reduce 34), ("LT", .reduce 34), ("NE", .reduce 34), ("PRINT", .reduce 34), ("RETURN", .reduce 34), ("WHILE", .reduce 34), ("]", .reduce 34), ("\x7b", .reduce 34)],
    /- 78 -/ [("'", .reduce 35), (")", .reduce 35), ("*", .reduce 35), ("+", .reduce 35), (",", .reduce 35), ("-", .reduce 35), ("/", .reduce 35), (":", .reduce 35), (";", .reduce 35), ("BREAK", .reduce 35), ("CONTINUE", .reduce 35), ("DOTADD", .reduce 35), ("DOTDIV", .shift 44), ("DOTMUL", .shift 45), ("DOTSUB", .reduce 35), ("EQ", .reduce 35), ("FOR", .reduce 35), ("GE", .reduce 35), ("GT", .reduce 35), ("ID", .reduce 35), ("IF", .reduce 35), ("LE", .reduce 35), ("LT", .reduce 35), ("NE", .reduce 35), ("PRINT", .reduce 35), ("RETURN", .reduce 35), ("WHILE", .reduce 35), ("]", .reduce 35), ("\x7b", .reduce 35)],
    /- 79 -/ [("'", .reduce 36), (")", .reduce 36), ("*", .reduce 36), ("+", .reduce 36), (",", .reduce 36), ("-", .reduce 36), ("/", .reduce 36), (":", .reduce 36), (";", .reduce 36), ("BREAK", .reduce 36), ("CONTINUE", .reduce 36), ("DOTADD", .reduce 36), ("DOTDIV", .shift 44), ("DOTMUL", .shift 45), ("DOTSUB", .reduce 36), ("EQ", .reduce 36), ("FOR", .reduce 36), ("GE", .reduce 36), ("GT", .reduce 36), ("ID", .reduce 36), ("IF", .reduce 36), ("LE", .reduce 36), ("LT", .reduce 36), ("NE", .reduce 36), ("PRINT", .reduce 36), ("RETURN", .reduce 36), ("WHILE", .reduce 36), ("]", .reduce 36), ("\x7b", .reduce 36)],
    /- 80 -/ [("'", .reduce 37), (")", .reduce 37), ("*", .shift 49), ("+", .reduce 37), (",", .reduce 37), ("-", .reduce 37), ("/", .shift 48), (":", .reduce 37), (";", .reduce 37), ("BREAK", .reduce 37), ("CONTINUE", .reduce 37), ("DOTADD", .shift 47), ("DOTDIV", .shift 44), ("DOTMUL", .shift 45), ("DOTSUB", .shift 46), ("EQ", .reduce 37), ("FOR", .reduce 37), ("GE", .reduce 37), ("GT", .reduce 37), ("ID", .reduce 37), ("IF", .reduce 37), ("LE", .reduce 37), ("LT", .reduce 37), ("NE", .reduce 37), ("PRINT", .reduce 37), ("RETURN", .reduce 37), ("WHILE", .reduce 37), ("]", .reduce 37), ("\x7b", .reduce 37)],
    /- 81 -/ [("'", .reduce 38), (")", .reduce 38), ("*", .shift 49), ("+", .reduce 38), (",", .reduce 38), ("-", .reduce 38), ("/", .shift 48), (":", .reduce 38), (";", .reduce 38), ("BREAK", .reduce 38), ("CONTINUE", .reduce 38), ("DOTADD", .shift 47), ("DOTDIV", .shift 44), ("DOTMUL", .shift 45), ("DOTSUB", .shift 46), ("EQ", .reduce 38), ("FOR", .reduce 38), ("GE", .reduce 38), ("GT", .reduce 38), ("ID", .reduce 38), ("IF", .reduce 38), ("LE", .reduce 38), ("LT", .reduce 38), ("NE", .reduce 38), ("PRINT", .reduce 38), ("RETURN", .reduce 38), ("WHILE", .reduce 38), ("]", .reduce 38), ("\x7b", .reduce 38)],
    /- 82 -/ [(",", .shift 110), ("]", .shift 109)],
    /- 83 -/ [("'", .shift 43), ("*", .shift 49), ("+", .shift 51), (",", .reduce 42), ("-", .shift 50), ("/", .shift 48), ("DOTADD", .shift 47), ("DOTDIV", .shift 44), ("DOTMUL", .shift 45), ("DOTSUB", .shift 46), ("]", .reduce 42)],
    /- 84 -/ [("'", .reduce 21), (")", .reduce 21), ("*", .reduce 21), ("+", .reduce 21), (",", .reduce 21), ("-", .reduce 21), ("/", .reduce 21), (":", .reduce 21), (";", .reduce 21), ("BREAK", .reduce 21), ("CONTINUE", .reduce 21), ("DOTADD", .reduce 21), ("DOTDIV", .reduce 21), ("DOTMUL", .reduce 21), ("DOTSUB", .reduce 21), ("EQ", .reduce 21), ("FOR", .reduce 21), ("GE", .reduce 21), ("GT", .reduce 21), ("ID", .reduce 21), ("IF", .reduce 21), ("LE", .reduce 21), ("LT", .reduce 21), ("NE", .reduce 21), ("PRINT", .reduce 21), ("RETURN", .reduce 21), ("WHILE", .reduce 21), ("]", .reduce 21), ("\x7b", .reduce 21)],
    /- 85 -/ [("[", .shift 111)],
    /- 86 -/ [(",", .shift 95), ("]", .shift 112)],
    /- 87 -/ [("'", .reduce 28), (")", .reduce 28), ("*", .reduce 28), ("+", .reduce 28), (",", .reduce 28), ("-", .reduce 28), ("/", .reduce 28), (":", .reduce 28), (";", .reduce 28), ("BREAK", .reduce 28), ("CONTINUE", .reduce 28), ("DOTADD", .reduce 28), ("DOTDIV", .reduce 28), ("DOTMUL", .reduce 28), ("DOTSUB", .reduce 28), ("EQ", .reduce 28), ("FOR", .reduce 28), ("GE", .reduce 28), ("GT", .reduce 28), ("ID", .reduce 28), ("IF", .reduce 28), ("LE", .reduce 28), ("LT", .reduce 28), ("NE", .reduce 28), ("PRINT", .reduce 28), ("RETURN", .reduce 28), ("WHILE", .reduce 28), ("]", .reduce 28), ("\x7b", .reduce 28)],
    /- 88 -/ [(")", .shift 113)],
    /- 89 -/ [(")", .shift 114)],
    /- 90 -/ [(")", .shift 115)],
    /- 91 -/ [("'", .shift 43), ("*", .shift 49), ("+", .shift 51), (",", .reduce 14), ("-", .shift 50), ("/", .shift 48), (";", .reduce 14), ("DOTADD", .shift 47), ("DOTDIV", .shift 44), ("DOTMUL", .shift 45), ("DOTSUB", .shift 46)],
    /- 92 -/ [("BREAK", .shift 5), ("CONTINUE", .shift 4), ("FOR", .shift 9), ("ID", .shift 10), ("IF", .shift 12), ("PRINT", .shift 8), ("RETURN", .shift 3), ("WHILE", .shift 11), ("\x7b", .shift 6)],
    /- 93 -/ [("'", .shift 43), ("*", .shift 49), ("+", .shift 51), ("-", .shift 50), ("/", .shift 48), (":", .shift 117), ("DOTADD", .shift 47), ("DOTDIV", .shift 44), ("DOTMUL", .shift 45), ("DOTSUB", .shift 46)],
    /- 94 -/ [("=", .reduce 55), ("ADDASSIGN", .reduce 55), ("DIVASSIGN", .reduce 55), ("MULASSIGN", .reduce 55), ("SUBASSIGN", .reduce 55)],
    /- 95 -/ [("(", .shift 23), ("-", .shift 24), ("EYE", .shift 25), ("FLOATNUM", .shift 20), ("ID", .shift 22), ("INTNUM", .shift 21), ("ONES", .shift 26), ("STRING", .shift 19), ("ZEROS", .shift 27), ("[", .shift 16)],
    /- 96 -/ [("BREAK", .shift 5), ("CONTINUE", .shift 4), ("FOR", .shift 9), ("ID", .shift 10), ("IF", .shift 12), ("PRINT", .shift 8), ("RETURN", .shift 3), ("WHILE", .shift 11), ("\x7b", .shift 6)],
    /- 97 -/ [("(", .shift 23), ("-", .shift 24), ("EYE", .shift 25), ("FLOATNUM", .shift 20), ("ID", .shift 22), ("INTNUM", .shift 21), ("ONES", .shift 26), ("STRING", .shift 19), ("ZEROS", .shift 27), ("[", .shift 16)],
    /- 98 -/ [("(", .shift 23), ("-", .shift 24), ("EYE", .shift 25), ("FLOATNUM", .shift 20), ("ID", .shift 22), ("INTNUM", .shift 21), ("ONES", .shift 26), ("STRING", .shift 19), ("ZEROS", .shift 27), ("[", .shift 16)],
    /- 99 -/ [("(", .shift 23), ("-", .shift 24), ("EYE", .shift 25), ("FLOATNUM", .shift 20), ("ID", .shift 22), ("INTNUM", .shift 21), ("ONES", .shift 26), ("STRING", .shift 19), ("ZEROS", .shift 27), ("[", .shift 16)],
    /- 100 -/ [("(", .shift 23), ("-", .shift 24), ("EYE", .shift 25), ("FLOATNUM", .shift 20), ("ID", .shift 22), ("INTNUM", .shift 21), ("ONES", .shift 26), ("STRING", .shift 19), ("ZEROS", .shift 27), ("[", .shift 16)],
    /- 101 -/ [("(", .shift 23), ("-", .shift 24), ("EYE", .shift 25), ("FLOATNUM", .shift 20), ("ID", .shift 22), ("INTNUM", .shift 21), ("ONES", .shift 26), ("STRING", .shift 19), ("ZEROS", .shift 27), ("[", .shift 16)],
    /- 102 -/ [("(", .shift 23), ("-", .shift 24), ("EYE", .shift 25), ("FLOATNUM", .shift 20), ("ID", .shift 22), ("INTNUM", .shift 21), ("ONES", .shift 26), ("STRING", .shift 19), ("ZEROS", .shift 27), ("[", .shift 16)],
    /- 103 -/ [("BREAK", .shift 5), ("CONTINUE", .shift 4), ("FOR", .shift 9), ("ID", .shift 10), ("IF", .shift 12), ("PRINT", .shift 8), ("RETURN", .shift 3), ("WHILE", .shift 11), ("\x7b", .shift 6)],
    /- 104 -/ [("$end", .reduce 16), ("BREAK", .reduce 16), ("CONTINUE", .reduce 16), ("ELSE", .reduce 16), ("FOR", .reduce 16), ("ID", .reduce 16), ("IF", .reduce 16), ("PRINT", .reduce 16), ("RETURN", .reduce 16), ("WHILE", .reduce 16), ("\x7b", .reduce 16), ("\x7d", .reduce 16)],
    /- 105 -/ [("$end", .reduce 17), ("BREAK", .reduce 17), ("CONTINUE", .reduce 17), ("ELSE", .reduce 17), ("FOR", .reduce 17), ("ID", .reduce 17), ("IF", .reduce 17), ("PRINT", .reduce 17), ("RETURN", .reduce 17), ("WHILE", .reduce 17), ("\x7b", .reduce 17), ("\x7d", .reduce 17)],
    /- 106 -/ [("$end", .reduce 18), ("BREAK", .reduce 18), ("CONTINUE", .reduce 18), ("ELSE", .reduce 18), ("FOR", .reduce 18), ("ID", .reduce 18), ("IF", .reduce 18), ("PRINT", .reduce 18), ("RETURN", .reduce 18), ("WHILE", .reduce 18), ("\x7b", .reduce 18), ("\x7d", .reduce 18)],
    /- 107 -/ [("$end", .reduce 19), ("BREAK", .reduce 19), ("CONTINUE", .reduce 19), ("ELSE", .reduce 19), ("FOR", .reduce 19), ("ID", .reduce 19), ("IF", .reduce 19), ("PRINT", .reduce 19), ("RETURN", .reduce 19), ("WHILE", .reduce 19), ("\x7b", .reduce 19), ("\x7d", .reduce 19)],
    /- 108 -/ [("$end", .reduce 20), ("BREAK", .reduce 20), ("CONTINUE", .reduce 20), ("ELSE", .reduce 20), ("FOR", .reduce 20), ("ID", .reduce 20), ("IF", .reduce 20), ("PRINT", .reduce 20), ("RETURN", .reduce 20), ("WHILE", .reduce 20), ("\x7b", .reduce 20), ("\x7d", .reduce 20)],
    /- 109 -/ [(",", .reduce 39), ("]", .reduce 39)],
    /- 110 -/ [("(", .shift 23), ("-", .shift 24), ("EYE", .shift 25), ("FLOATNUM", .shift 20), ("ID", .shift 22), ("INTNUM", .shift 21), ("ONES", .shift 26), ("STRING", .shift 19), ("ZEROS", .shift 27), ("[", .shift 16)],
    /- 111 -/ [("(", .shift 23), ("-", .shift 24), ("EYE", .shift 25), ("FLOATNUM", .shift 20), ("ID", .shift 22), ("INTNUM", .shift 21), ("ONES", .shift 26), ("STRING", .shift 19), ("ZEROS", .shift 27), ("[", .shift 16)],
    /- 112 -/ [("'", .reduce 46), (")", .reduce 46), ("*", .reduce 46), ("+", .reduce 46), (",", .reduce 46), ("-", .reduce 46), ("/", .reduce 46), (":", .reduce 46), (";", .reduce 46), ("BREAK", .reduce 46), ("CONTINUE", .reduce 46), ("DOTADD", .reduce 46), ("DOTDIV", .reduce 46), ("DOTMUL", .reduce 46), ("DOTSUB", .reduce 46), ("EQ", .reduce 46), ("FOR", .reduce 46), ("GE", .reduce 46), ("GT", .reduce 46), ("ID", .reduce 46), ("IF", .reduce 46), ("LE", .reduce 46), ("LT", .reduce 46), ("NE", .reduce 46), ("PRINT", .reduce 46), ("RETURN", .reduce 46), ("WHILE", .reduce 46), ("]", .reduce 46), ("\x7b", .reduce 46)],
    /- 113 -/ [("'", .reduce 43), (")", .reduce 43), ("*", .reduce 43), ("+", .reduce 43), (",", .reduce 43), ("-", .reduce 43), ("/", .reduce 43), (":", .reduce 43), (";", .reduce 43), ("BREAK", .reduce 43), ("CONTINUE", .reduce 43), ("DOTADD", .reduce 43), ("DOTDIV", .reduce 43), ("DOTMUL", .reduce 43), ("DOTSUB", .reduce 43), ("EQ", .reduce 43), ("FOR", .reduce 43), ("GE", .reduce 43), ("GT", .reduce 43), ("ID", .reduce 43), ("IF", .reduce 43), ("LE", .reduce 43), ("LT", .reduce 43), ("NE", .reduce 43), ("PRINT", .reduce 43), ("RETURN", .reduce 43), ("WHILE", .reduce 43), ("]", .reduce 43), ("\x7b", .reduce 43)],
    /- 114 -/ [("'", .reduce 44), (")", .reduce 44), ("*", .reduce 44), ("+", .reduce 44), (",", .reduce 44), ("-", .reduce 44), ("/", .reduce 44), (":", .reduce 44), (";", .reduce 44), ("BREAK", .reduce 44), ("CONTINUE", .reduce 44), ("DOTADD", .reduce 44), ("DOTDIV", .reduce 44), ("DOTMUL", .reduce 44), ("DOTSUB", .reduce 44), ("EQ", .reduce 44), ("FOR", .reduce 44), ("GE", .reduce 44), ("GT", .reduce 44), ("ID", .reduce 44), ("IF", .reduce 44), ("LE", .reduce 44), ("LT", .reduce 44), ("NE", .reduce 44), ("PRINT", .reduce 44), ("RETURN", .reduce 44), ("WHILE", .reduce 44), ("]", .reduce 44), ("\x7b", .reduce 44)],
    /- 115 -/ [("'", .reduce 45), (")", .reduce 45), ("*", .reduce 45), ("+", .reduce 45), (",", .reduce 45), ("-", .reduce 45), ("/", .reduce 45), (":", .reduce 45), (";", .reduce 45), ("BREAK", .reduce 45), ("CONTINUE", .reduce 45), ("DOTADD", .reduce 45), ("DOTDIV", .reduce 45), ("DOTMUL", .reduce 45), ("DOTSUB", .reduce 45), ("EQ", .reduce 45), ("FOR", .reduce 45), ("GE", .reduce 45), ("GT", .reduce 45), ("ID", .reduce 45), ("IF", .reduce 45), ("LE", .reduce 45), ("LT", .reduce 45), ("NE", .reduce 45), ("PRINT", .reduce 45), ("RETURN", .reduce 45), ("WHILE", .reduce 45), ("]", .reduce 45), ("\x7b", .reduce 45)],
    /- 116 -/ [("$end", .reduce 9), ("BREAK", .reduce 9), ("CONTINUE", .reduce 9), ("ELSE", .reduce 9), ("FOR", .reduce 9), ("ID", .reduce 9), ("IF", .reduce 9), ("PRINT", .reduce 9), ("RETURN", .reduce 9), ("WHILE", .reduce 9), ("\x7b", .reduce 9), ("\x7d", .reduce 9)],
    /- 117 -/ [("(", .shift 23), ("-", .shift 24), ("EYE", .shift 25), ("FLOATNUM", .shift 20), ("ID", .shift 22), ("INTNUM", .shift 21), ("ONES", .shift 26), ("STRING", .shift 19), ("ZEROS", .shift 27), ("[", .shift 16)],
    /- 118 -/ [("'", .shift 43), ("*", .shift 49), ("+", .shift 51), (",", .reduce 47), ("-", .shift 50), ("/", .shift 48), ("DOTADD", .shift 47), ("DOTDIV", .shift 44), ("DOTMUL", .shift 45), ("DOTSUB", .shift 46), ("]", .reduce 47)],
    /- 119 -/ [("$end", .reduce 10), ("BREAK", .reduce 10), ("CONTINUE", .reduce 10), ("ELSE", .reduce 10), ("FOR", .reduce 10), ("ID", .reduce 10), ("IF", .reduce 10), ("PRINT", .reduce 10), ("RETURN", .reduce 10), ("WHILE", .reduce 10), ("\x7b", .reduce 10), ("\x7d", .reduce 10)],
    /- 120 -/ [("'", .shift 43), (")", .reduce 49), ("*", .shift 49), ("+", .shift 51), ("-", .shift 50), ("/", .shift 48), ("DOTADD", .shift 47), ("DOTDIV", .shift 44), ("DOTMUL", .shift 45), ("DOTSUB", .shift 46)],
    /- 121 -/ [("'", .shift 43), (")", .reduce 50), ("*", .shift 49), ("+", .shift 51), ("-", .shift 50), ("/", .shift 48), ("DOTADD", .shift 47), ("DOTDIV", .shift 44), ("DOTMUL", .shift 45), ("DOTSUB", .shift 46)],
    /- 122 -/ [("'", .shift 43), (")", .reduce 51), ("*", .shift 49), ("+", .shift 51), ("-", .shift 50), ("/", .shift 48), ("DOTADD", .shift 47), ("DOTDIV", .shift 44), ("DOTMUL", .shift 45), ("DOTSUB", .shift 46)],
    /- 123 -/ [("'", .shift 43), (")", .reduce 52), ("*", .shift 49), ("+", .shift 51), ("-", .shift 50), ("/", .shift 48), ("DOTADD", .shift 47), ("DOTDIV", .shift 44), ("DOTMUL", .shift 45), ("DOTSUB", .shift 46)],
    /- 124 -/ [("'", .shift 43), (")", .reduce 53), ("*", .shift 49), ("+", .shift 51), ("-", .shift 50), ("/", .shift 48), ("DOTADD", .shift 47), ("DOTDIV", .shift 44), ("DOTMUL", .shift 45), ("DOTSUB", .shift 46)],
    /- 125 -/ [("'", .shift 43), (")", .reduce 54), ("*", .shift 49), ("+", .shift 51), ("-", .shift 50), ("/", .shift 48), ("DOTADD", .shift 47), ("DOTDIV", .shift 44), ("DOTMUL", .shift 45), ("DOTSUB", .shift 46)],
    /- 126 -/ [("$end", .reduce 12), ("BREAK", .reduce 12), ("CONTINUE", .reduce 12), ("ELSE", .shift 130), ("FOR", .reduce 12), ("ID", .reduce 12), ("IF", .reduce 12), ("PRINT", .reduce 12), ("RETURN", .reduce 12), ("WHILE", .reduce 12), ("\x7b", .reduce 12), ("\x7d", .reduce 12)],
    /- 127 -/ [("'", .shift 43), ("*", .shift 49), ("+", .shift 51), (",", .reduce 41), ("-", .shift 50), ("/", .shift 48), ("DOTADD", .shift 47), ("DOTDIV", .shift 44), ("DOTMUL", .shift 45), ("DOTSUB", .shift 46), ("]", .reduce 41)],
    /- 128 -/ [(",", .shift 110), ("]", .shift 131)],
    /- 129 -/ [("'", .shift 43), ("*", .shift 49), ("+", .shift 51), ("-", .shift 50), ("/", .shift 48), ("BREAK", .reduce 13), ("CONTINUE", .reduce 13), ("DOTADD", .shift 47), ("DOTDIV", .shift 44), ("DOTMUL", .shift 45), ("DOTSUB", .shift 46), ("FOR", .reduce 13), ("ID", .reduce 13), ("IF", .reduce 13), ("PRINT", .reduce 13), ("RETURN", .reduce 13), ("WHILE", .reduce 13), ("\x7b", .reduce 13)],
    /- 130 -/ [("BREAK", .shift 5), ("CONTINUE", .shift 4), ("FOR", .shift 9), ("ID", .shift 10), ("IF", .shift 12), ("PRINT", .shift 8), ("RETURN", .shift 3), ("WHILE", .shift 11), ("\x7b", .shift 6)],
    /- 131 -/ [(",", .reduce 40), ("]", .reduce 40)],
    /- 132 -/ [("$end", .reduce 11), ("BREAK", .reduce 11), ("CONTINUE", .reduce 11), ("ELSE", .reduce 11), ("FOR", .reduce 11), ("ID", .reduce 11), ("IF", .reduce 11), ("PRINT", .reduce 11), ("RETURN", .reduce 11), ("WHILE", .reduce 11), ("\x7b", .reduce 11), ("\x7d", .reduce 11)]]
  goto := #[
    /- 0 -/ [("assign_statement", 7), ("id_ref", 13), ("statement", 2), ("statements", 1)],
    /- 1 -/ [("assign_statement", 7), ("id_ref", 13), ("statement", 14)],
    /- 2 -/ [],
    /- 3 -/ [("expression", 15), ("matrix_funcs", 18), ("matrix_ref", 17)],
    /- 4 -/ [],
    /- 5 -/ [],
    /- 6 -/ [("assign_statement", 7), ("id_ref", 13), ("statement", 2), ("statements", 30)],
    /- 7 -/ [],
    /- 8 -/ [("expression", 32), ("matrix_funcs", 18), ("matrix_ref", 17), ("print_recursive", 31)],
    /- 9 -/ [],
    /- 10 -/ [],
    /- 11 -/ [],
    /- 12 -/ [],
    /- 13 -/ [],
    /- 14 -/ [],
    /- 15 -/ [],
    /- 16 -/ [("matrix_rows", 53)],
    /- 17 -/ [],
    /- 18 -/ [],
    /- 19 -/ [],
    /- 20 -/ [],
    /- 21 -/ [],
    /- 22 -/ [],
    /- 23 -/ [("expression", 55), ("matrix_funcs", 18), ("matrix_ref", 17)],
    /- 24 -/ [("expression", 56), ("matrix_funcs", 18), ("matrix_ref", 17)],
    /- 25 -/ [],
    /- 26 -/ [],
    /- 27 -/ [],
    /- 28 -/ [],
    /- 29 -/ [],
    /- 30 -/ [("assign_statement", 7), ("id_ref", 13), ("statement", 14)],
    /- 31 -/ [],
    /- 32 -/ [],
    /- 33 -/ [],
    /- 34 -/ [("expression", 65), ("index_list", 64), ("matrix_funcs", 18), ("matrix_ref", 17)],
    /- 35 -/ [("expression", 67), ("matrix_funcs", 18), ("matrix_ref", 17), ("relation_expression", 66)],
    /- 36 -/ [("expression", 67), ("matrix_funcs", 18), ("matrix_ref", 17), ("relation_expression", 68)],
    /- 37 -/ [("expression", 69), ("matrix_funcs", 18), ("matrix_ref", 17)],
    /- 38 -/ [("expression", 70), ("matrix_funcs", 18), ("matrix_ref", 17)],
    /- 39 -/ [("expression", 71), ("matrix_funcs", 18), ("matrix_ref", 17)],
    /- 40 -/ [("expression", 72), ("matrix_funcs", 18), ("matrix_ref", 17)],
    /- 41 -/ [("expression", 73), ("matrix_funcs", 18), ("matrix_ref", 17)],
    /- 42 -/ [],
    /- 43 -/ [],
    /- 44 -/ [("expression", 74), ("matrix_funcs", 18), ("matrix_ref", 17)],
    /- 45 -/ [("expression", 75), ("matrix_funcs", 18), ("matrix_ref", 17)],
    /- 46 -/ [("expression", 76), ("matrix_funcs", 18), ("matrix_ref", 17)],
    /- 47 -/ [("expression", 77), ("matrix_funcs", 18), ("matrix_ref", 17)],
    /- 48 -/ [("expression", 78), ("matrix_funcs", 18), ("matrix_ref", 17)],
    /- 49 -/ [("expression", 79), ("matrix_funcs", 18), ("matrix_ref", 17)],
    /- 50 -/ [("expression", 80), ("matrix_funcs", 18), ("matrix_ref", 17)],
    /- 51 -/ [("expression", 81), ("matrix_funcs", 18), ("matrix_ref", 17)],
    /- 52 -/ [("expression", 83), ("matrix_funcs", 18), ("matrix_ref", 17), ("row_content", 82)],
    /- 53 -/ [],
    /- 54 -/ [("expression", 65), ("index_list", 86), ("matrix_funcs", 18), ("matrix_ref", 17)],
    /- 55 -/ [],
    /- 56 -/ [],
    /- 57 -/ [],
    /- 58 -/ [],
    /- 59 -/ [],
    /- 60 -/ [],
    /- 61 -/ [],
    /- 62 -/ [("expression", 91), ("matrix_funcs", 18), ("matrix_ref", 17)],
    /- 63 -/ [("expression", 93), ("matrix_funcs", 18), ("matrix_ref", 17), ("range", 92)],
    /- 64 -/ [],
    /- 65 -/ [],
    /- 66 -/ [],
    /- 67 -/ [],
    /- 68 -/ [],
    /- 69 -/ [],
    /- 70 -/ [],
    /- 71 -/ [],
    /- 72 -/ [],
    /- 73 -/ [],
    /- 74 -/ [],
    /- 75 -/ [],
    /- 76 -/ [],
    /- 77 -/ [],
    /- 78 -/ [],
    /- 79 -/ [],
    /- 80 -/ [],
    /- 81 -/ [],
    /- 82 -/ [],
    /- 83 -/ [],
    /- 84 -/ [],
    /- 85 -/ [],
    /- 86 -/ [],
    /- 87 -/ [],
    /- 88 -/ [],
    /- 89 -/ [],
    /- 90 -/ [],
    /- 91 -/ [],
    /- 92 -/ [("assign_statement", 7), ("id_ref", 13), ("statement", 116)],
    /- 93 -/ [],
    /- 94 -/ [],
    /- 95 -/ [("expression", 118), ("matrix_funcs", 18), ("matrix_ref", 17)],
    /- 96 -/ [("assign_statement", 7), ("id_ref", 13), ("statement", 119)],
    /- 97 -/ [("expression", 120), ("matrix_funcs", 18), ("matrix_ref", 17)],
    /- 98 -/ [("expression", 121), ("matrix_funcs", 18), ("matrix_ref", 17)],
    /- 99 -/ [("expression", 122), ("matrix_funcs", 18), ("matrix_ref", 17)],
    /- 100 -/ [("expression", 123), ("matrix_funcs", 18), ("matrix_ref", 17)],
    /- 101 -/ [("expression", 124), ("matrix_funcs", 18), ("matrix_ref", 17)],
    /- 102 -/ [("expression", 125), ("matrix_funcs", 18), ("matrix_ref", 17)],
    /- 103 -/ [("assign_statement", 7), ("id_ref", 13), ("statement", 126)],
    /- 104 -/ [],
    /- 105 -/ [],
    /- 106 -/ [],
    /- 107 -/ [],
    /- 108 -/ [],
    /- 109 -/ [],
    /- 110 -/ [("expression", 127), ("matrix_funcs", 18), ("matrix_ref", 17)],
    /- 111 -/ [("expression", 83), ("matrix_funcs", 18), ("matrix_ref", 17), ("row_content", 128)],
    /- 112 -/ [],
    /- 113 -/ [],
    /- 114 -/ [],
    /- 115 -/ [],
    /- 116 -/ [],
    /- 117 -/ [("expression", 129), ("matrix_funcs", 18), ("matrix_ref", 17)],
    /- 118 -/ [],
    /- 119 -/ [],
    /- 120 -/ [],
    /- 121 -/ [],
    /- 122 -/ [],
    /- 123 -/ [],
    /- 124 -/ [],
    /- 125 -/ [],
    /- 126 -/ [],
    /- 127 -/ [],
    /- 128 -/ [],
    /- 129 -/ [],
    /- 130 -/ [("assign_statement", 7), ("id_ref", 13), ("statement", 132)],
    /- 131 -/ [],
    /- 132 -/ []]

end MatrixLang.Recognizer
