import AgentFlow.Text.Archive

/-!
# Codes of pictures

Pictures and their codes, archived: the code points of a picture, its codes, and after a slash those
that can ask for a skin tone.
-/

namespace AgentFlow.Console.Emoji

def table : Archive := ⟨50418, "
 f:t$Z+]Hr148t!NoJ05$b>iL[H,^;C)KF%iL9YMs0:52:53'4:S9>aj1.I(xoKWbovYS^mZ1zT)_h9mKZIi3@gyPI6]PAMS]ufs
 IXj9iz':a&CAzHzu&2lCZYkdIC#9jr>On,DsE2@EY#~1z<lX&!<SU^g[hh(6sp7f<TuUhfI,F$Eduig8cZ]PWt3DKGIjcwN)l:^
 !e'.:[[],t6Khc8,F92FK!OumS4p@n24zJ#NdO_@T&D1Mx#@&qLYwd&z<TeO*NLY=U|Ratei[wjN)EY@x]Gd~N6r_F[%:>]fe,f
 ^|rU#.uW>Y5N)n]9xx~rmn^Q.c1CKW~[0x|p9b]!t?s'FlhJ>n%Jwhad2qv,T*l0T1@4zW.xyO5_5r'(i3XKmS:pfb'6QnWpGJz
 E>yU.:2&M25&M(v<%UbpyLM=dCm*sb4*MA:GGcFl:]'4AD11&x$.6TGl#bKu3Zn:ctl#0K7P1wv)(;ga6!ENNC*O;xH$uhqs&DB
 (<]76L:Agha.>mOi_RAh@_X1c6vO3Dq(|F[(MNn#|4**;w_.tfw$@o?%*)+kb)1l1sg|1@M!*s9FEb]mfTZd1a<G,Y14)=1msaO
 6Bu+q#M]w0otLsb%m,;r#IcvQL^_xh9Mf_icb:5Prrxxyy2g|F_yN]1p5K:Ldezx#@%I8KMF*BEX%e1ZbXp'QcJ#dGe#J?tg.r~
 (v9tbG4U=AkTl#,)pbV5pDAd+3~IDEXBXnqNqa43u?E|4EZneEZZe@TSpvwMza)yBMN]=u>g>oP:9Hm:MuVr;%ugzmzGBzS>y]1
 ZjF+wHmvT~viJau=W.7kd;??D2|+!pQ+5>PGI*%XBC8OMu'qNiK<~G+UHC=@mdci]Annb+O@$w+CT+G#y#7^Q9:O0f:QklX,XB7
 PEwkkjtc@3zs>O>cH7;a%q*5zLaC5y.Nut[qqA~4@[[Bva1O~]w^9#'()qx=a[p:N+)W<aM%KVAIqQ:,9V_j^)CR4B2N9mr[^Gx
 &9<&cM+i)]A1UgS,Z*QP!%aYbillK]=@'q>nf|OTaf2D@5y3j2+vQ+.Zz5x%n_D?lUt:,G>53~q@kcQz8ZmHEdB++^~F2fqBf50
 ZSmt*ysjhgS*4Kl8#_sy04NL#E2szF&pH:X2ws0(sEK9;O^hajq>IrJp.6sWce^Wy_KH8_VZHitEAb;[.(s_O&0!XSJQtrw[[$+
 d!^iWky%Z!d|dy<ZC]hvGLd+,XU>,&ID#.0oPV@Gx3sxI@wKx2T:IFi=F])n9jlvW5MHBR8@&F_2s1#u<UIIMGRIpu#jE*BPj+9
 $Ka#3S,f7#?pvwd^]|*lUN8J?1S^RQjN>8(qihu]?1Y;lZVKio#+PM!^Yh!lo'Dy+U%t@MS@YY.f@Sb@_<jj?f_J(xv:C4T>T2d
 d@XrSX7!7zkt4ZoZ0!C.i%pQ&nq?zm#Eo0'@zr&*<n_G<Lm3P,EuM3@m&'v&_OX~1j>ZfKp6h8uz)$Fah%MAFS?uj0IY)M)0*C9
 ~2i4!d$,vkSzxe(|h~98wz+4'$iMB^ltAT2sK@zYlBkWEwu8OS#p1Tp?HC3s|w4nH^kqJRmd'fdw<?J%U1@jCh>]6*pv!9dH%DJ
 0@egb!>&pTB!B_)F;&0Q6BL2Hf>Y@*$q*'QEuIhq^4O[.i+&!VU7zESMu<kGjCF(icmcf[#!g43|9R7>|ca(d+;@0wnb.J$SqUM
 _9x$l%hAWeoe0:VifH!'0c>$.9jSn^9C:U|7#?75Td7sX:6q1n>^$s10J*~&#,OB0k3F2lo1;[o;Nh<7^q^d+nh%3s<5Y=7!TX;
 qDWm#Fz*g6D@+C_GO1rB&&SwhO~1gY<~uBNr'?f6Xc<nI@P%neU7R=Kpuja<6srstesDR9Kb?Ml6[*9eKCy=f)6S>%rbj?qp],6
 0y.vOpR2sW|*HHTRA4+Tknsul8+>w8%eoi05g(M^YkJ2)HgJxo<qDX;YK5doM81&JSODy%m)&v3tbJNRW1z7<~lmU8tYuZFUSPL
 YY#6UhnEU,C<$+b7xx^FRlGAIGUKU20QKvhIY&Y'S$yD&|ZBW|epLTc>gx2Fc*!g++4#bAjWQ:!nH5$BKw![RV=t<DocSTNmoXl
 ]B$FBm,.5Qv033W=CuX8BaVw|v+mI3veXlp=fh+an>bCv^0[<d38F7$mENb1Ktbmc##>v(r37:SYn:)vgTZEsHe@kLfp#2y;ehJ
 @sU0ZiORpZZ:S5zAu7|4ct?V6[:AX4BvXSquYp:p<tmJ(>?:gU<]%oeQsWXanwT=rA?w'k$>b8<U'F[:#Um._~mDZ<K7<~F%N_N
 aOg*?qyLR2ctVMjfG+M<X^:XCTOgY#x!;Qm[!*Y=CpGD4,RRt!wWc?omQ!9l8BWYe&#&*JJ!U1#klc!343<l6w;L$SSqE&U]Gj&
 >yBOy.|;&^vB|rQc'_WKf6EWA??w!t,[!rD+Kl_Uyb<G[?[@Uktb0G[eT7VfSA(wte+K=]o~*Q'Tim@G8Q_qcP%6&iu~M3eG40M
 8xD^bkQ;^ci4$ehAL^fhJ@Lqbi'EG5i]u9''a&Y$XgyM'Y8>x9GAD5I(F]KU+><yr5nMXcP6B>Hw(ET[P;W<lU[G#6fd~%~Xp,k
 fkT@fD$Kv(Qc&7tt?%Q)$lBu>pFOVjt.a&K(B8^Am+wl&5(0G'C+taV[o3!s2Q3ZZ?,q7kk5s|FvJCHg1&g*9'Y!N@]*F?]&wEf
 m<)'vqf3yT(d2|3hK_Att[9x7TJg0mwWi4:V4GrgAj?&CX^fZbjO|(GYyv<kE%Ay0*U<3u?LeW@guM#1QM1:(|,7]F>4pOv8[YE
 $<$#~Q&de,;l'd.cheL_gi28Giws8nQ0n%BFmnsI%gT6a*a^E:'hpRaD?W~t2wI1wR?4)+HzFbS+cXJw6J,IJO|iadk@8TT$=ZZ
 G9$eem(LS]LH,<jFDqUvFaeEkEjH?PowI6HB>g?[8jo~YizZi#'(=MJJGg=y^[~pVQg]V*ulegSwO%:$2M~hnj1!P5&!7dH$?GK
 &<l)WV:1by7V52!X::@gI57P+_#P~%>;U1+t>_ROU]TeQ_*Jdj_U1*:R#xRGG0Ait.tBRj^n|i*<rYcM?*@u=jLtva~<X#_6)*Y
 m4J9M*KWg[;O>6y>keoB]L'c!DY2QRbd:n'OyPfA)!p|4SXAzNySmb4@a;|yu@4Q)9:^1[j9+Ptofcg^w9j1VF@=,*tAui_5+sC
 ?.Q%qqDham42Ra%%!s|c**o.~jml6]pkq8wn5+G$'8^zN.L9%kFB4%>OPH,3s,;+x#.shj&6,(Tzd6c9deWso]B=TtUi@e_lt%!
 YZ$MU(07tK'I;HF7Ywed7[5^k81xwlC]Amig&QHtA||zrBq=#gRqABcmLVDw<&||pu%TgDfhT0hY<ZsN40Bau1dGTU@3cBp.AVW
 7u:XUxZXD[4pTd5568FOSm.b[tf1=i.'0vt@+z;djJKT~'1yN2nl1l9>iaB0$!pfc]n,NI(Ad<1G?3Lz2Rv4lrAD)k+t_y2d5*r
 <nmfraqi2?KvDi(e9Poa^O~c!iSK]bVnXa=$B13KcNHE<,4[L;@()_|&vrt]sN'?Z<ZSrk6=Z$hHj5W=.6EuHxS2Lah>_epM5d,
 z)reALo2dF'2T#oSpz&Eg2=kvBuom,#eu<0M9!en05~f+X$K08C*LZbEwh1U'rDV$scqxd#(,Sti'<R75C*[z=5o>5pNex.iUh<
 wdrf?xQ_0is$iw8ewU|+ywmUn.zIb.EVeR)rY]|hNmH5A<|'4ZC@3?wsp1'<@YVLJ6TC5Z659m:74k@xd91:lY(Wb2oVbC5(jlU
 k<gM8b^!LyU<lcPT_n9BbauL@)>%vXDMA9S|]^RyxqJ=<3w7ZiEi.|R,1LSnuvS3[0m|s6DqiH%lJ]EcV,p:aF>YBtL0=3Vz_8S
 d:XCr1S5)%A4Ws%6q+^'RmBD7i@&^l;+Zlq,QAf'*1!G|9o~1J|t|DJF@(pq>ulrT%NWB'AnYH4IMwtG<Gi<sYy#xQHC7jA?eN7
 UpnyiRWV7_!!UiK^8;'G#'%HqDHr7155!ZV|%04kVlrFTzvG'|<.rE:,2VJD3_ts$,^9Y8oaNcGvH0HEm3X@Q5XpB_zJ0';9n1x
 i<GlQVu>'90Tvm90.A..TsC:N<2_yuuW(%z~ZsGHD6',MmjAC8|ce'CJSCW(&7*KC+@(lR:%NiW@w=h1'Lz._3yEz!Bmu?J!j1)
 )t%2M*my*~6CWv2H%eM1<D5J$&sRaEFkGCM3+QsYaVrxJI(pFXjur8ol?hK'1#&[Bg$A+Ii<|%iaQKI%RDH2J4Ktm'ewo(@~$,e
 Z'_j~QtHM]3r:at@;(<[]+YGb1DWZ2wy9%f,2zv_m)Sn._0^e<h_C7?>&Sdfa1E![>nDhi(xfg9zTD@XSZ2Jr[>FNBX2]c)yal3
 @7$I~U.R2,AiAaoHCZ6s6$kE.LDF=RV:]jo2!1p,hwn.Goj%Q^?b6[9Uag_FnZndDgt??WfBnCf^RO#d3@@k~%EVW0(XP2&r0?^
 <3_T%^_9_>iLp:lD.fetAbb&,?3n,%>K[bBs_@5IhNa|C,xj!v!oK,v_50bP(TPE<q:Cj]mAlJn29+p@3G,:j;g~l6o!.l_wvNk
 EP0Z[?gCc3@3UQ=54Ye1EU5hhWMhFHyHq7rXdXr^<+.06c~#z+:bZCCU3MRUL#|W]2!Qz~mo9?@p.)X9BSNtrxE]mw9x^86<7vD
 Yr8#+Kj|cZzxF^kIFP2!FjU$Ur'@Qg*v3]VuH=XXBgavR^X>kvKvn(Cs1KwjU%Ob,$Z~!9Fo|QxhS*NrphN[g5aENqrWf')RRN0
 $)]$!oE#z2BE5gs22#kF+:tW?pFZgv]i.)>(Yxz7GB6P&:=W9y[ix)ungZ|39b&&lCgb81Be3<Ey(_|sAVg;A[POh'*6b=D*&qE
 ;m6!IZqbWD=+tG#)yo4|$!r2p5;qvere3fA)@!4OZYo3VjymvX_;O+H@]!ni,GoMC_$a,JcaVH3MykdRD2!9dBNZmV,4,L|L*F?
 k)Ad2EfS.Ipm)z!:VMY<QG]A_zY#~>Fw<@d7b[2Hn'F3eeGhl:N8*tIIrM=T4I?D0pWB8?~xengrRTKUdmeeN!<N~V,so>^@dQB
 aj5<Gu)a<~uumW?EbR^O>1i|5<3rRY&n,idx'RH5h|1xrlpIbjB8=Gnp!TjvU4fa^+AkEC7O2@0X;DwpN7BR:HCFsrVbUjgaZp@
 #7JT<^#9G8&GEwDKir,JM7z4OD(|,JP;aWBeZL+<84]L9o[aRDJ$tggt?Qp:&sX+zb^X<0=61wjKr2y)qVX<?Q!f6fQv.*G*%%*
 il<S%_l1UzjO0&Dj!2udz'ZSJQZQje'J2:ax$Lvw_iY8NnL0tqtL*l[>oqiE)<<G7,iDnVa_~4B]B_W6zu#f=oa@<?W<?O:1$#E
 p:]''4_(>?OS<Z#5in6YVBL(<WB~86^MSu=X+Nc>_22$C>fm.3|8$7SzXx26bl*FVD8%s*'~]Y.c|pc25Ld|aE$f@6yJb[2MuBV
 ov%)C^Io9?hvpt>mFU'tQz^<QUv~RCri(M)g^[eEENkY=jyfk1|J?u?A=r#?>s_P24xq3PxRB=qkEG3L6&2ublIwoMF=pRXzwq]
 m(V&,%)C5h]H&#jE>G^u*1p<g2PWK,p=dX^+$|TLWMss!X:cNosirvPSVXzSt3x&E,8&^b=aBq,f]YJYj~JAmH52tG68V]mnHEV
 S6j$MSPisBhW=yl+m2'?kj'.^Fi5B6a%:1&C9?@w.+Bf_z;<okdJY>xF5oClyj&!Zco!T+ep7Iru|)dH7H(Ym!wNFsW<Z8Y'PcM
 DEkL]b|Dj(Fz<OiA;rk58KFP59tHi#|knH%9*zkN<a.:mW$%k=kbiXKQ((*O8v[S~;a=T+KcQaXE5$*iNetM3T.NBIr?zX|qs#j
 Yy2xd,Dw(>7Ab0X5W(b_j@9L9';)1WxfKGhzD%+l'T$)*SwLU1O~=*3B4LY[m;%[V4jWi,%F=OEJ^<e>TwG#&vqSTIj;y**pq%,
 ^Oo>Ko,&OJCT;hzmkr]7BlXJEVx|%l6KQm*<em(__%neC'q1qX51QQJW;HzCcz'b:BIh([&5N&S6Hk+l?|lbHcutKz(&K+v_,Xh
 W!gA<GRWJw23O~^2K);l$jb+(UIfGM0~5&4d$!5W#5>|(LHd!B+;vWrxJkc>?ct)FASi|=h@y)AGDiW=.lmf4g,?2&y?1NNWwB%
 Daos_:.m,@0s+&fFfUR1RY[N?oX>%IOfLfE@N:RjgSl'F@,Bn:,GxAiD.Fo.Cy8tWY@$xNA7Ka>i1GFH$ZQs.r>|.$0_k3cgaoz
 .Y*Ye=vI?gRD6[9OT<rH;l>Jjq9yV:(a>$t9O,].o,g'Wix8!241;aWSvsn2eE^OlHJMB%^,fMet7H5,dGVPV+WF>lR8hha4Y2e
 %biA.PxmU:Su5UjYL_x#y@k3I=.)84rB;qG:uKFJp1TQAsI>9rRT($3pVN&:I]!=Ua8U+K<H^RpSzf,t4cUysS8(@d&i4l|nos.
 F%1@y+=Ddog;.EeSu>8=43f[nhEQDa!91q88~'|bilVw3!4~N;XM~wyWOB?Vg~phr,(@Bp;Z<WS>P;KMe=[4C_Xu[9Fhm!2s>Aw
 kbTon5dk70^@8U):[B2Y34;>ZwYpk^.Fzzz5ljb*rHymy:R^uJ)Q^=#yx>zxw?iATj5#x5EoLr2GkL'PT>%?%b?&%8rRhRQ,)xy
 ~;Y>*+#_V2D9gTL]!Owi>)ooG4FkH0YfV'lNl6|P4+ds%n(pb0KeO[orLi(nA!g9vdkwLK&OzJ'$#W]<mWC7_i%K+70[mNkDo>y
 (7H#T<!qn?>~sAM9>_;(EK:50|h~8gN8Nnq(?:w)G;^JaqVb7s%9me7_?6I^A,4sTcKH_'wd4P=dY8$1UTXLuJT:MyN~S.MV+t[
 DU~!c0u'TOtD;VG]+b%_?SV]<bux28v(uxdUsU+_rW6R8r6DVJ'^|,cAq3&Auu:V|~Nl)Td:Z;_QLdhtx[)5rL=IUEe6py<)odO
 a>zK=sGoBu]F8e:SZ5wmsCxu,AHwa)__LOd1;ywWQJ]uY|]ljxqnxcy!+t0btOMJNqaPy1dS_Xk|pE3W(A_JV<LXohklR1ZS0O3
 ^8R6Di>2b0,*zUP1,prH7Vwg]aJ9aE.el^K~r>tGBEwxm.']29<_)SKeF8x=(Vc[P0hIf'c~PT[g@@Qc,@lxnR,gBhL'yLj[Rm?
 u]9.&eG@PHzCIi';T3QZEpBMkf+DPq)Q>8;'u:$A|vl&W3ojO@^emNyxwk<uF(3[s]]|c^D117aS_X4*w#cXIyXQtAd~v0Gt#6$
 @4JMm](AP@PXJ25;Q9nRH=~=YvH~pq%F(9w&:r3$jRKnC^?yvCUoxyTXqu(GBffKj1,l.<>_xis$=.!jQnn;K&7?Puo6vFm_F40
 8?)L|2g4_.M+z4X;qAAa]xRA;<0fb|]kGae]LyWF'!|sXIw+*;$ntyXO1ye__iFbjo!Iv'tb@%e5&SNCi0!_&^M0m+M'm5q'P^%
 FKp9IjN@O+fv~Y;d@!7kyVvN>~Izi7Ek^Zu(F=[;30sM[:K37>&WB,3+uIX8f3?CZOpIu]gtMu0>ucy^Q|R:p0vYyd'1zFd9^yL
 #abZ<W;)VRo?8SmzTffX*Q+b6L'rr^B0!b4PiwKXPVl(1;*)0Ax[c'te)hi>>t9+(!_JszWe$2z6RgsAk0H'@eY1MObmNSi^)hf
 th%u%[k|iw)X*4D>ioY~:9&t8,f$UwHq;@86N1uU@NLLQ?+z&U^djN)E;N<pm=sAOEB<wQl!yu@<2b|Hsko;H_I;PVE!goIQcQ)
 P;t;!WJRL=jdGC'FQjqr=~b,FT~Lg4N!&X|'*3K$nrjwyZY~k~VI@+MFTmY')=<v+_qrfv)K[E0<epIJ45I:B8Rel%jF~zqQ%87
 >>?*U]G!'jrlZm+@ZnCaTjaZc$^#)n5k!'erVlC*s)fk?^&5@]2*heu7br1*,1,>alZ7JL42x4e1EVyARqjI=)?mchf_GkP8uzg
 VWCHsveI1#cK@(1Wbb%7RSj7gxxR>@6p)&<YkmNC&y4z#FD!zvTX.evTyIweHpxt532;,)=jfbnqBD*6<[!Ikg97e6$=67tg~0,
 ge(=wS6+Q=^u$~nx)M2iXS(r>Wo~u1<A,nSS7[EI:+bokxj2zSA,0^_S;WX]NraRwIT#4K~M#sG,J5Oad,'*t|]r9t3a5jb^'N]
 !eyK4VL!'rpxhv|KAEm6|jdvOOpF_*v2sQi$]xt>^9DQW_(PPf#N<P6KT5NjPgCZT94Se:I&jIl4S5|,^7XwA?bMTo#Xfh3**('
 =27+$cfx]bSjAFDZq+@'%oEtc8@GZYWv+nk8uU8qe$Zt9(pP:DAg>1ask=oDVzBedh4_[xbc_'uf3?[!+cV3WZNQMt^DWx8[C_s
 0RElw@hTZNd6:6Im$|e<C**vxQXLej:$J)G^s^)Ee!mn6yI;G_ec?lB#zzw9<w!:%Pp<#;DxfXKWp#MP[Q4^MmqOf:#OdtR%3EV
 'YDC1^FJkCaNbgZ@I7_e@&Qo:j!p$#[QgoQY*Cd'1Uq#?Ib*DPfH&uGF,_tj.mq*_O<IIL@3t?r'&._840sQc9)UDm45H,().:Q
 GRN<;L7=PaV,HA0kpwM~c7GK#L^#B9O1pDO|>01z@W0;amJ&#I[|TlsN!N,N31ttQIuNT]((koyErztf$#Oc:okL^%K]s9IbCP.
 ?E8F6PD>XG:s#;ljcz3XNe%xyd02v]GH<xkD6O_d[~YD|bKG._VgbTMQP0dOW_NBGgM'UpB;Zkjlu~4%Ekd[NWiDPBa,9H7+[7y
 ubL3LP5Ct82(&3pBssW3.^V*,UHq'80Z3Rti[7w(z)E@:dGK;j>]!HbSJZXgYet]!H:TmY~kTs]'M2)]nhL<*oF1]7Z7F%=dYW4
 v7*'tMTFk~I@3#Ux=,%1^h3CA3=ve5c<_pI0SM6YkL6AYD%FsvBB[vZIJ$wxQmLNE:#>M4(Y93X(ui='@WIY;@4o)[w)yM7T^B>
 5naYMh8cSVH]b2%O1SPw.0%i6VO>[PoaKy$p'JOUW=0jU6i6~@Y7@?l'>CW8K2(CKGOvH(@e%b9SoMi:K:^ZXS6fGKP@]*8ln$w
 bTKuD;dlVK+%WM;pN7qLH[E^e#J^hoMS98Cj)h;0X?J7sF*IJ,qzxt$CsIx#z4y06reAMhD8dy|Dl]uQXTRK)JVzHr+os5,BZid
 #IsM?D8n],v#rU#RhtRMxSd~!FmF6XsDiouu[VpDltrz1avNxGok3nEGQgbOfT+[zF4Sa;R<KW?Sjjs@,=E*fV;uDLcSF2XtcDn
 ;yjlHOFP!gm+|q+Hu>Au>#tyiLX:NkZ~7hY)6vecOjrR>dXh,ZMhva8T'?8gntZXS~zAS6&m$t@[#4VN_L.V|n=OO>m4iIDwe)&
 &_dbCB,ny^:bvN.YPjFEFq@x7n'<.jB4eEyx#no:4=R+91Nkg'l,Q'lOFRMSeFsh<CNCM~#6P*u<66;4(*N%YkWbP)<=qC&q>&i
 IzQB?4g+kb&Q_wC)YI:Q]#.5)h~]pGhp^*Le6AU+e0?sP6GsIGei.'dC]MbT:eFRV2j^'^Op'C_b'r5CT9$_#;1IT4J(^Ya2+x|
 %2LoPIsaFeL&poIp6.hCV.+5oMZW[0$7,iN(wDHNe$@aT,DPyt0ecwdP7xDI.z2FI2;i;8o<ACYK9??ULD5s#XwW0OT[05u~<fc
 UFV8e_|%RgvZU.f9dThj#r%SNoWmg;#1;7k'4EJFp[ZtT|yk7vs''qJvwmi?;ApMYm]es^c;,Po6.EH'HCZRJXmsL20qc.F%o@x
 fh8DwN~3.2&1gB^=9AlLJNR_4ASvRf]mZ5;DYBv1Tgi$&B3:;c&S4WSgUbE1Uu^tt^[Ym~@t(pAIH7VF[(btc|jVLMp+Q:RUnCA
 m3Nkk:3kLg=b+osZbFzdP=.~w%nnh~XjS>8t;O;6e_FjzHN#8x.#N13Q0A4A&_JJ$J;JVIMigmw6uy3FSS>d>~m@+y@Tz8D=|Sl
 u2i:no4BS%X?@k|?nRKJ,@#iT4w5^VQYjsEj%RdMRsQ$3R'e<G0pw!E4PsSd(FX)df?<_J@xyMt57O^>m!;2R4|EZ%wj|%eG2SJ
 &d:]iEJZKFn$f@+PV>W%PMz&i$>r|q8.WNtcY$Hn7j6$'hjDBQMx<BAc%TWBeod([3b<et<0dORA*Zgk04bwx.<ws4[NM!rv(P7
 ,k$6dwvSrkVH#!:kS%)HOx[&|i(I1!2&e>4R%8&l;>gZVXK|E_17h[a(Nobu$Xb||d!b2s)nn%gpaF]esxlp~65Yk#|eA=_[6yC
 =EVT&yNFS&l)aQ8*__cpUaOJMA,M>:16V]9XH?9g|;l@[pCzA.Bg6C2mGomMBR,miV*)riYpmV*HE21%ANR<%^tSI?DC8YXpzli
 M:V.^f3&MuUTra&zqj$qE<Z1*XI3F~!#'s_gl(>a]tRY#wsAUN;!l*L|<+)I.[nBEk^'O%TUf]I[:+])Y+c);bq2fHrZ;LDUwq,
 l?fNJ2&ddsj<X7aB@kRRE!nJdZfFDiGmhBWb]Ar,J?,~AJJ5ZJ)nQg.!l,)[sy1l..Anozcmg)p%mZhmH$&[Hb2KM=9oy[=omf8
 Y2_2bLORYljTc1)%fqLNK5[0p26wIq|WMNs#L76B4T^2Z0t7J?b!6@E>klo_UK)?kj*4@m!2WNZk&e#yuym[cqSC38&vyyD~|%P
 uew^#VocFZ]h?MZVvjm!YUwV7AqI.wkaxDr1#dpYFIL=f|Xsr:^o9vUnb'll$66B:F&=dkGXoSR&,S$!rb~;IOt(ErTp8|E5F'S
 qT[*M>?t3p^#sU#!~xt%nq1[<N:J0lG._>6)$Pp.aOP:[sM1&P9|cY.8holedr@~CSpr;&xFWD&RbR?9F,3!p?t39c%hM(aSuwh
 r10[bFMV*rF(.I'IjKb1Ox(yLjT~86tP9C4H%K2Kp4.No@iusqjs3L|h0n@FB)pyJQ=m!j(G=[b)npOjLMoF[|R6b2!n]<+(mw[
 VlPh~w6ibdaRQB@|153SpX(oal=+$dU4yvZ.LlK?f.$WhByua*i9KHCpT@8TxBzaiqg74V_r~s:E%7F;=WZSV9mP1xb>^(,*?H7
 fjqgC!)DS88'>$Rs!D)KbCG5H%!fwV,yILpL%~Q<ZKK8$$J%itVvFeif06[,gmjEY,)+li@U9W_r93E,>dxXlCnS#7xJfk~gg]0
 K.(Ah&u8ct(dK7[(YM[6QS.2cbD~e9ApZ~?4BT:Am<DoZm_OSuEU#f6ppTO3p5%He9O=?U<XN;)Q[gLlUy'5GahnkvLXOr(y?Rj
 ?omxRutRNj2C63)5^,uOhD@bR6dvqgz&2ej,nGT!WUHCX%9M;DJ]ur+]@&hGoN4J5,7f_n%che3HC^r(0x587cge6<=9+]%EFe6
 .N<]+86b7VEPPjQ'~:t,$XM5]d^pUxP)j^Hme+1i]:vO1(&[<9w!3Y5pLd,msr0p'|ZO'%jbPp2VIxO4.AST2W'&)w,$7j~s|b2
 uedU$a;0qNGUlbYPWVKgh?<7_=F[Xfk:APmn+B.rq_2T)up1fxxA+!?lK2OL4zs$S&*_x@Yw#y_PiKSjimS>@GyG>g@kvW=wola
 MjXW'WhNq7w$o5rG^(5NDHm]_PX_,AHsOV<F89lav,D%'8n4oul;wvAmO_^5SwikSaRVB~TFY]2mJiA4oKS$DQI[2fKQ%Pxq0+<
 TQ#pb#:wPzYrP_*@7J+(Q6GmG66uwmUFR7UAhD[nQi,]sA*rurF7!<C]F3YR4#Bnd|Lpx!q[viMd8=:3Fn:Q=jWDKo>)WT~:zbr
 Xam)DD>g=zn])HpmH+|T;wE77%t^Ot9uFyMJGkfIdfC098IZ_'X4.~,56gwj|kjR_njYA>A<|9tR!_%t>N6aLv?.l7]%N0b<lQi
 >K*T]qDUpX3Is!SQNYmDHz5!qNdpczIvnzzzYQB!g$hS5LJ!mlVM<EbFzD^X.u@DA*8*Rf.+&!Yf|%zSAqAEY4Q@Jd!%Rf%nO3u
 7%N*+)nEhlWP.Ov~>,,3NI**9SMUeGN*6!:[8iYAd$BI3NUsH9zeRZ!t*)M=:&3cSmCFKG;Z&~11rB::8nzXxH:H?dPSbF8BtoF
 rBBjGiX_9+[i!Sz@B'q|iO?SLSfOboE<r@+UFEyES3M0SogB>jqRbEtA7(#dw?cW(,t#rz*,uDU8Ueev#omi8ab4gln#0zFAQJ3
 >MUb(bH'FPx>fJ;@TrBi@7r](:m''b>Ch7cExK$N[Rf_TOC6Tn+_8f3PrmYJkM+VEfL7NuSv]NhPbnElYgMp,vzHmnvv$B^)2vD
 =~']19k'B<37fX,Avb*WV3*jAfuY&E&xdBF91K(K1<v4q'K!yt&tbokKQ|JK@NJ(AK#9:6)sT=_%T5^~B0oyP'BBzIL&.@_PTvb
 c2em)*vU:1O#AKE%T'[Qp@xDB|3fId>dzf9oYSJhaa1z=TJ!So58;P|=^B;CwRaNmcn^qsD0kjJW9_!_!R:'EXG_x'@$c(=bu.C
 ]W[SS(<37DFHmz|4&#i*otA>X^>*p$]g+]%At=#WX$hG6b+G8e>^JK[~[JvnO:N7CCrD99XZ|yTsOZc:,sa8VGrJDyRY?ooo[zV
 sZ)!!w59r_O&k^+FV3t%]zlp%(mfkmk[3|6Rw(T'iS^6m3_4(7j%a7l?wPI$<tB#CD$FiQzzb$(y^g>ik_]cQY]o+wp1L%w)X;6
 p,0ZoI*NCrXwde#uI8x8p;oTIgyg@i[.eU=_ACy%jR~4I$v:^Xv3<$jZa6qjVQtAaufr4PLVD6Nr'=Gq<j]urR:?Yobrz1x:_&_
 n|zp+~G^,uO?tF=B7VW4k^RBHAzuTjDaMO+&ERbRP_zxs1EO)77BaIZUr>lL.>txX?ORoj@ELun#ZVGr'W]aLCuU&|,ih?k5VC6
 jpB$.@eG_fB5u|;P'jpa$r6x13!m=6g)[Ns|Gr>yV)kE3u2!8s:EG4Pa&7~whFH_S481[t?l=B3MI5z<tZ&O:8BC!frrf<,5c|1
 sa6l5M%bx)R0hy9VZu1vOOK2OhwpE,ib^:~sB69xzds_+_=K(%7F^s(!7?rNZ(nz7s&O?nG6fQop,Z~(Z$Bmb91JMGteWUfD62k
 xGTo&iRT4cjV&X4.Ytpq|uunCMDFXv$dBj=Hb|WCpzmHI]s$iXL^^WGEF5=:2HU@$7YSa4J*ZyDS9qb+[+L$4G(>k>*KK5V,oV#
 J4=9Esp.9@5w*z!XYkrn5s]>(5(ij3ONZcPs=nzkjSg4o42J!Pb<wz]0K$9<|QP7co=&vq5q|HQ9,_hYuL5fb=)aZ)$waswTp^&
 Dj'f[ueYMBJx,EKFs)TLw*urRa,;bdMM'?<3;e$Yu^pI|(,1z~5<_G&#AWQQC(J&5wiqchf90kSCx71NaQ|D'NPC>4:(AJ39O6N
 jh@a?<2]3V#wu?4$)[A?W1[sLcl7!%W!%]1j(!iQ'tjZk$jWhKiNTOSjRgS2ta<$>&dn%!Od;fD~_^VA'OL4AeJsPQ*ob>ATx!a
 HSx=Bs3NPYk>zNe0A]aLIARY:1C^=TF0uB3RBp%jxoRGx9S;lvv[QxiXpdT_~~_P^tor>W~>ZVByVr$AOisus(o,Scdlr6.k?[n
 #&?C#;xPvb@.cu#hH@xXK%[J28+#?yJ*N>2qjDR,y$=7@M*Vyw#^sxLVVIA*m:uob:#vpzpd3'O$)VaLU*h3lmBn(gFkCg1f24.
 9zq~A4sDa#Tr+8XSXW5Ekv~^l_*wD1**)i!(kLhJorVXxjn)&tR.JXgNB(nzwt,S;d)EQ=WuVx.7c]JFPqxUB]q:m?f9xUoL4XN
 DwZ043K^%l#~dC:,uc;,!T?Hw?@mRk@H!C@3!X$2;%ZFn%+YU=VB=gQ$~dfEBJe[lCB=k|Y:A%7o6A4K$s_H~Zrwferi7=dT.v7
 |YQh;L|[.?3ZMu)@[3r!$L<CM.(?Ch_>Sjevh9^Y&ppyw]v]oA7V2Yx$=UaY@up@7cSkn#=7a$c>,YiM)Jd<[H^9w
 5bZkX&CZ:7"⟩

end AgentFlow.Console.Emoji
